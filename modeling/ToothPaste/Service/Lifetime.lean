import ToothPaste.Service.System

/-!
# The end of a connection

A connection has a beginning, `connect_to_device` and `run`, and no end: `DisconnectDevice` is
taken from the command channel and dropped, and a notification stream that has ended disables its
branch of the loop and nothing else. The device stays published as connected, the loop of `run` is
not left, and the scans and connections it takes from the channel are dropped
(`leave_ignored`).
-/

namespace ToothPaste

/-- A request that `ble_task` executes: a scan or a connection. -/
def AppCommand.isRequest : AppCommand → Bool
  | .scanForDevices | .connectToDevice _ => true
  | _ => false

namespace Service

variable {SK PK : Type} {cr : Crates SK PK} {pb : Prost} {s t : Service SK} {a : ServiceAction SK}

/-- The step ends the connection: a `DisconnectDevice` is taken from the channel, or the
notification stream ends. -/
def Leaves (s : Service SK) : ServiceAction SK → Prop
  | .task (.recvCommand _) => ∃ rest, s.task.commands = .disconnectDevice :: rest
  | .task .endStream => s.task.streamOpen = true
  | _ => False

/-- A scan or a connection is next in the command channel. -/
def HasRequest (s : Service SK) : Prop :=
  ∃ cmd rest, s.task.commands = cmd :: rest ∧ cmd.isRequest = true

/-- The connection has ended: no device is published as connected, the task is back in `ble_task`,
and it executes every scan and connection it takes from now on. -/
def Released (cr : Crates SK PK) (pb : Prost) (s : Service SK) : Prop :=
  s.task.iface.appState.connectedDevice = none ∧ s.task.phase = .idle ∧
    ∀ t, ((service cr pb).startingAt s).Reachable t → t.HasRequest → ∀ env u,
      (service cr pb).step t (.task (.recvCommand env)) = some u → ∃ cmd rest,
        t.task.commands = cmd :: rest ∧
        u.task = BleTask.idleCommand cr pb { t.task with commands := rest } cmd env

/-- The loop of `run` drops a scan and a connection. -/
theorem iface_recvCommand_of_request {env : CommandEnv SK} (hentered : s.task.phase.entered = true)
    (hrequest : s.HasRequest) (hst : (service cr pb).step s (.task (.recvCommand env)) = some t) :
    t.task.iface = s.task.iface := by
  obtain ⟨cmd, rest, hcmd, hrequest⟩ := hrequest
  have hmoves : Moves cr pb s (.task (.recvCommand env)) t := moves_of_step hst
  cases hmoves with
  | task hm =>
    cases hm with
    | idleCommand hphase => rw [hphase] at hentered; cases hentered
    | @command _ deviceId cmd' rest' hphase hcmd' =>
      rw [hcmd'] at hcmd
      obtain ⟨rfl, rfl⟩ := List.cons.inj hcmd
      cases cmd' with
      -- the catch-all branch
      | scanForDevices | connectToDevice device => rfl
      | _ => cases hrequest

/-- Once the loop of `run` is entered, it is never left. -/
theorem entered_of_reachable (h : ((service cr pb).startingAt s).Reachable t)
    (hentered : s.task.phase.entered = true) : t.task.phase.entered = true := by
  refine h.invariant (I := fun t => t.task.phase.entered = true) ?_ fun t a u ht hst => ?_
  · rintro _ rfl
    exact hentered
  have hmoves : Moves cr pb t a u := moves_of_step hst
  cases hmoves with
  | task hm => exact entered_of_moves hm ht
  | handleEvent | updateState => exact ht
  | trySend => rwa [BleTask.trySend_phase]

/-- A step that ends the connection changes neither what is published nor where the task is. -/
theorem leaves_keeps (hleaves : Leaves s a) (hst : (service cr pb).step s a = some t) :
    t.task.iface = s.task.iface ∧ t.task.phase = s.task.phase := by
  have hmoves : Moves cr pb s a t := moves_of_step hst
  cases hmoves with
  | task hm =>
    cases hm with
    -- a stream that has ended disables its branch, and the loop goes on with the others
    | endStream => exact ⟨rfl, rfl⟩
    -- in both loops the command falls into the catch-all branch
    | @idleCommand env cmd rest hphase hcmd =>
      obtain ⟨rest', hcmd'⟩ := hleaves
      rw [hcmd] at hcmd'
      obtain ⟨rfl, -⟩ := List.cons.inj hcmd'
      exact ⟨rfl, rfl⟩
    | @command env deviceId cmd rest hphase hcmd =>
      obtain ⟨rest', hcmd'⟩ := hleaves
      rw [hcmd] at hcmd'
      obtain ⟨rfl, -⟩ := List.cons.inj hcmd'
      exact ⟨rfl, hphase.symm⟩
    | _ => exact hleaves.elim
  | handleEvent | updateState | trySend => exact hleaves.elim

/-- In every state with a device published as connected: taking a `DisconnectDevice` and the end of
the notification stream never end the connection. The device stays published, the task stays where
it is, and in the loop of `run` it stays for ever, dropping every scan and connection it takes. -/
theorem leave_ignored {device : Device}
    (hdevice : s.task.iface.appState.connectedDevice = some device) (hleaves : Leaves s a)
    (hst : (service cr pb).step s a = some t) :
    ¬ Released cr pb t ∧ t.task.iface.appState.connectedDevice = some device ∧
      t.task.phase = s.task.phase ∧
      (s.task.phase.entered = true → ∀ u, ((service cr pb).startingAt t).Reachable u →
        u.task.phase.entered = true ∧ (u.HasRequest → ∀ env v,
          (service cr pb).step u (.task (.recvCommand env)) = some v →
            v.task.iface = u.task.iface)) := by
  obtain ⟨hiface, hphase⟩ := leaves_keeps hleaves hst
  have hpublished : t.task.iface.appState.connectedDevice = some device := by rw [hiface, hdevice]
  refine ⟨fun hreleased => ?_, hpublished, hphase, fun hentered u hu => ?_⟩
  · rw [hreleased.1] at hpublished
    cases hpublished
  · have hentered' := entered_of_reachable hu (hphase ▸ hentered)
    exact ⟨hentered', fun hrequest env v hv => iface_recvCommand_of_request hentered' hrequest hv⟩

/-- The sample device as it is published when it is connected. -/
def published : Device := { Sample.device with state := .connected .notAuthenticated "Unknown" }

/-- A device is connected and the service is told to leave it. -/
def disconnectRun : List (ServiceAction UInt8) :=
  Sample.connectRun.map .task ++ [.task (.putCommand .disconnectDevice)]

/-- The sample run. -/
theorem exists_leaving : ∃ s t, (service sampleCrates Sample.prost).Reachable s ∧
    s.task.iface.appState.connectedDevice = some published ∧
    Leaves s (.task (.recvCommand (Sample.commandEnv 5))) ∧
    (service sampleCrates Sample.prost).step s (.task (.recvCommand (Sample.commandEnv 5))) =
      some t ∧ t.task.iface.appState.connectedDevice.isSome = true := by
  have hrun : ((service sampleCrates Sample.prost).replay (fun _ _ => True) Sample.startService
      disconnectRun).map (fun s => (s.task.iface.appState.connectedDevice, s.task.commands,
        ((service sampleCrates Sample.prost).step s
          (.task (.recvCommand (Sample.commandEnv 5)))).map fun t =>
            t.task.iface.appState.connectedDevice.isSome)) =
      some (some published, [.disconnectDevice], some true) := by decide +kernel
  obtain ⟨s, hs, hfacts⟩ := Option.map_eq_some_iff.mp hrun
  simp only [Prod.mk.injEq] at hfacts
  obtain ⟨hdevice, hcommands, hstep⟩ := hfacts
  obtain ⟨t, hst, hsome⟩ := Option.map_eq_some_iff.mp hstep
  exact ⟨s, t, .of_replay _ (.init ⟨_, 0, rfl⟩) hs, hdevice, ⟨[], hcommands⟩, hst, hsome⟩

/-- The device the service was told to leave is still published. -/
theorem leave_ignored_sample :
    ∃ t : Service UInt8, t.task.iface.appState.connectedDevice = some published := by
  obtain ⟨s, t, -, hdevice, hleaves, hst, -⟩ := exists_leaving
  exact ⟨t, (leave_ignored hdevice hleaves hst).2.1⟩

/-- A `DisconnectDevice` that is taken does not end the connection. -/
theorem disconnect_dropped :
    ¬ ∀ s, (service sampleCrates Sample.prost).Reachable s →
      s.task.iface.appState.connectedDevice.isSome = true → ∀ a t, Leaves s a →
        (service sampleCrates Sample.prost).step s a = some t →
        Released sampleCrates Sample.prost t := by
  intro hclaim
  obtain ⟨s, t, hreach, hdevice, hleaves, hst, hsome⟩ := exists_leaving
  have hreleased := hclaim s hreach (by rw [hdevice]; rfl) _ t hleaves hst
  rw [hreleased.1] at hsome
  cases hsome

end Service

end ToothPaste
