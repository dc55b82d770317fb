import ToothPaste.Service.System

/-!
# Notifications and panics

What a device sends is decoded and handled in the loop of `run`, and what does not decode, or is of
an unknown type, is passed over. Two notifications panic: a `PeerKnown`, and a challenge while no
device is published as connected. The loop is entered with a device published, and only a hotkey
can undo that, by sending back a state that was read before.

* `notifications_served`: in every run in which no hotkey does so, every notification but a
  `PeerKnown` is handled and the loop goes on; after such a hotkey a challenge panics.
* `challenge_panics`: a hotkey is pressed while the device is being connected.
-/

namespace ToothPaste

namespace Service

variable {SK PK : Type} {cr : Crates SK PK} {pb : Prost} {s : Service SK}

/-- The condition on a step: a hotkey in `run` does not send back a state without a connected
device. -/
def KeepsConnected (s : Service SK) : ServiceAction SK → Prop
  | .output =>
    match s.pending with
    | .updateState newState :: _ =>
      s.task.phase.runId.isSome = true → newState.connectedDevice.isSome = true
    | _ => True
  | _ => True

instance (s : Service SK) (a : ServiceAction SK) : Decidable (KeepsConnected s a) :=
  match a with
  | .output =>
    match h : s.pending with
    | .updateState newState :: _ =>
      decidable_of_iff (s.task.phase.runId.isSome = true → newState.connectedDevice.isSome = true)
        (by simp [KeepsConnected, h])
    | .trySend _ :: _ | .panic :: _ | [] => isTrue (by simp [KeepsConnected, h])
  | .task _ | .handleEvent .. => isTrue trivial

theorem connected_of_reachable (hcr : cr.Lawful)
    (h : (service cr pb).ReachableVia KeepsConnected s) : WellFormed s ∧ s.task.Connected := by
  refine h.invariant (I := fun s => WellFormed s ∧ s.task.Connected) ?_ ?_
  · rintro _ ⟨storage, now, rfl⟩
    exact ⟨wellFormed_start storage now, nofun⟩
  · rintro s a t ⟨hwf, hs⟩ hkeeps hst
    have hm := moves_of_step hst
    refine ⟨wellFormed_step hcr hwf hm, ?_⟩
    cases hm with
    | task hm => exact BleTask.connected_step hcr hwf.task hs hm
    | handleEvent => exact hs
    -- what a hotkey sends back is a matter of the condition
    | updateState hpending =>
      simp only [KeepsConnected, hpending] at hkeeps
      exact hkeeps
    | trySend hpending => simpa [BleTask.Connected] using hs

/-! ## Taking a notification -/

/-- Taking a notification leaves the loop running, unless it panics. -/
theorem phase_recvNotification {t : Service SK} {deviceId : String} {n : ValueNotification}
    {rest : List ValueNotification} (hphase : s.task.phase = .running deviceId)
    (hn : s.task.notifications = n :: rest)
    (hst : (service cr pb).step s (.task .recvNotification) = some t) :
    t.task.phase =
      if isPeerKnown pb n = true ∨
          (challengeOf pb n).isSome = true ∧ s.task.iface.appState.connectedDevice = none then
        .stopped
      else .running deviceId := by
  have hmoves : Moves cr pb s (.task .recvNotification) t := moves_of_step hst
  cases hmoves with
  | task hm =>
    cases hm with
    | recvNotification hphase' hn' =>
      rw [hphase'] at hphase
      cases hphase
      rw [hn'] at hn
      cases hn
      have hresult := s.task.iface.handleNotification_panics_iff cr pb deviceId n
      rcases hhandled : s.task.iface.handleNotification cr pb deviceId n with ⟨r, iface⟩
      rw [hhandled] at hresult
      simp only at hresult
      subst hresult
      split_ifs <;> rfl

/-- In every run in which no hotkey in `run` sends back a state without a connected device, each
notification that is taken is handled without a panic, and the loop goes on, exactly when it is not
a `PeerKnown`. After the first hotkey that does so, taking a challenge panics. -/
theorem notifications_served (hcr : cr.Lawful)
    (h : (service cr pb).ReachableVia KeepsConnected s) :
    (∀ deviceId n rest t, s.task.phase = .running deviceId → s.task.notifications = n :: rest →
      (service cr pb).step s (.task .recvNotification) = some t →
      (t.task.phase = .running deviceId ↔ isPeerKnown pb n = false)) ∧
    ∀ u, (service cr pb).step s .output = some u → ¬ KeepsConnected s .output →
      ∀ deviceId n rest t, u.task.phase = .running deviceId →
        u.task.notifications = n :: rest → (challengeOf pb n).isSome = true →
        (service cr pb).step u (.task .recvNotification) = some t → t.task.phase = .stopped := by
  obtain ⟨-, hconnected⟩ := connected_of_reachable hcr h
  constructor
  · intro deviceId n rest t hphase hn hst
    obtain ⟨device, hdevice⟩ := Option.isSome_iff_exists.mp (hconnected (by rw [hphase]; rfl))
    rw [phase_recvNotification hphase hn hst, hdevice]
    cases isPeerKnown pb n <;> simp
  -- the state sent back by the hotkey is what the challenge finds
  · intro u hu hstale deviceId n rest t hphase hn hchallenge hst
    have hnone : u.task.iface.appState.connectedDevice = none := by
      have hmoves : Moves cr pb s .output u := moves_of_step hu
      cases hmoves with
      | updateState hpending =>
        simp only [KeepsConnected, hpending, Classical.not_imp, Option.not_isSome_iff_eq_none]
          at hstale
        exact hstale.2
      | trySend hpending => simp [KeepsConnected, hpending] at hstale
    rw [phase_recvNotification hphase hn hst, if_pos (.inr ⟨hchallenge, hnone⟩)]

/-- The device id of a loop that is running, the notifications, and the phase after the next one is
taken. -/
def taking (s : Service UInt8) : Phase × List ValueNotification × Option Phase :=
  (s.task.phase, s.task.notifications,
    ((service sampleCrates Sample.prost).step s (.task .recvNotification)).map (·.task.phase))

/-- A device is connected and challenges the service. -/
def challengedRun : List (ServiceAction UInt8) :=
  Sample.connectRun.map .task ++ [.task (.notify (Sample.notification 3 [9]))]

/-- The challenge is handled and the loop goes on. -/
theorem notifications_served_sample : ∃ s t : Service UInt8,
    (service sampleCrates Sample.prost).step s (.task .recvNotification) = some t ∧
      t.task.phase = .running "a1" := by
  have hrun : ((service sampleCrates Sample.prost).replay KeepsConnected Sample.startService
      challengedRun).map taking =
      some (.running "a1", [Sample.notification 3 [9]], some (.running "a1")) := by decide +kernel
  obtain ⟨s, hs, hfacts⟩ := Option.map_eq_some_iff.mp hrun
  simp only [taking, Prod.mk.injEq] at hfacts
  obtain ⟨hphase, hn, htaken⟩ := hfacts
  obtain ⟨t, hst, -⟩ := Option.map_eq_some_iff.mp htaken
  have hserved := notifications_served sampleCrates_lawful
    (.of_replay _ (.init ⟨_, 0, rfl⟩) hs)
  exact ⟨s, t, hst, (hserved.1 "a1" _ [] t hphase hn hst).mpr (by decide)⟩

/-- Ctrl+Alt+C is pressed while the device is being connected, and done when the loop is entered:
then the device's challenge panics. -/
def staleRun : List (ServiceAction UInt8) :=
  Sample.modifiersRun ++ Sample.greetRun.map .task ++ [Sample.press .keyC] ++
    Sample.subscribeRun.map .task ++ [.output, .task (.notify (Sample.notification 3 [9]))]

/-- A notification that is no `PeerKnown` panics. -/
theorem challenge_panics :
    ¬ ∀ s, (service sampleCrates Sample.prost).Reachable s →
      ∀ deviceId n rest t, s.task.phase = .running deviceId → s.task.notifications = n :: rest →
        (service sampleCrates Sample.prost).step s (.task .recvNotification) = some t →
        t.task.phase = .running deviceId := by
  intro hclaim
  have hrun : ((service sampleCrates Sample.prost).replay (fun _ _ => True) Sample.startService
      staleRun).map taking =
      some (.running "a1", [Sample.notification 3 [9]], some .stopped) := by decide +kernel
  obtain ⟨s, hs, hfacts⟩ := Option.map_eq_some_iff.mp hrun
  simp only [taking, Prod.mk.injEq] at hfacts
  obtain ⟨hphase, hn, htaken⟩ := hfacts
  obtain ⟨t, hst, hstopped⟩ := Option.map_eq_some_iff.mp htaken
  have hrunning := hclaim s (.of_replay _ (.init ⟨_, 0, rfl⟩) hs) "a1" _ [] t hphase hn hst
  rw [hstopped] at hrunning
  cases hrunning

end Service

end ToothPaste
