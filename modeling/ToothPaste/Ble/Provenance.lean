import ToothPaste.Ble.Sample
import ToothPaste.Ble.Steps

/-!
# When an input event was captured and when it is sent

The input channel is filled at all times and drained in the loop of `run` only. A run keeps for
every event when it was put in the channel, when it was taken, when the AES key that was active
then had been derived, and what was written for it (`Provenance`).

Nothing relates the time an event was put to the time of the key: an event that waits in the
channel while the device connects and completes its challenge is sent afterwards
(`queued_event_sent`). What the code does ensure is about taking: an event that is taken while
there is no AES key is dropped, and every event that is written was taken after the key it is
encrypted with was derived (`input_taken_after_key`).
-/

namespace ToothPaste

/-- An event taken from the input channel. -/
structure Taken where
  event : InputEvent
  /-- When it was put in the channel. -/
  putAt : ℕ
  /-- When it was taken. -/
  takenAt : ℕ
  /-- When the AES key that was active then had been derived, and the key. -/
  derived : Option (ℕ × ByteArr 32)
  /-- What was written for it. -/
  values : List Bytes

/-- The history of the input events; the clock counts steps. -/
structure Provenance where
  clock : ℕ
  /-- When the latest AES key was derived, and the key. -/
  derived : Option (ℕ × ByteArr 32)
  /-- When the events in the channel were put there, in their order. -/
  queued : List ℕ
  taken : List Taken

namespace BleTask

open BleInterface

variable {SK PK : Type} {cr : Crates SK PK} {pb : Prost} {s t : BleTask SK} {a : BleAction SK}

/-- What one step adds to the history. -/
def provenance (cr : Crates SK PK) (pb : Prost) (h : Provenance) (s : BleTask SK)
    (a : BleAction SK) (t : BleTask SK) : Provenance where
  clock := h.clock + 1
  derived :=
    match derivedKey cr pb s a with
    | some (_, key) => some (h.clock, key)
    | none => h.derived
  queued :=
    match a with
    | .putInput _ => h.queued ++ [h.clock]
    | .recvInput _ => h.queued.tail
    | _ => h.queued
  taken :=
    match a, s.inputs, h.queued with
    | .recvInput _, event :: _, putAt :: _ =>
      h.taken ++ [{
        event
        putAt
        takenAt := h.clock
        derived := if s.iface.ecdh.activeKey.isSome then h.derived else none
        values := t.iface.ble.written.drop s.iface.ble.written.length }]
    | _, _, _ => h.taken

/-- The task with the provenance of its input events. -/
def withProvenance (cr : Crates SK PK) (pb : Prost) :
    Transition.System (BleTask SK × Provenance) (BleAction SK) :=
  (bleTask cr pb).withHistory ⟨0, none, [], []⟩ (provenance cr pb)

/-- Only taking an input event adds to the events taken. -/
theorem provenance_taken {h : Provenance} (htake : ∀ envs, a ≠ .recvInput envs) :
    (provenance cr pb h s a t).taken = h.taken := by
  cases a with
  | recvInput envs => exact absurd rfl (htake envs)
  | _ => rfl

/-- Only putting and taking an input event change the remembered times. -/
theorem provenance_queued {h : Provenance} (hput : ∀ event, a ≠ .putInput event)
    (htake : ∀ envs, a ≠ .recvInput envs) : (provenance cr pb h s a t).queued = h.queued := by
  cases a with
  | putInput event => exact absurd rfl (hput event)
  | recvInput envs => exact absurd rfl (htake envs)
  | _ => rfl

/-! ## The invariant -/

/-- The derivation that is remembered is the active key's. -/
structure KnowsKey (i : BleInterface SK) (h : Provenance) : Prop where
  derived : ∀ key, i.ecdh.activeKey = some key → ∃ at', h.derived = some (at', key)
  earlier : ∀ at' key, h.derived = some (at', key) → at' < h.clock

/-- The remembered times are those of the events in the channel, and no time is used twice. -/
structure Tracks (inputs : List InputEvent) (h : Provenance) : Prop where
  length : h.queued.length = inputs.length
  earlier : ∀ n ∈ h.taken.map Taken.putAt ++ h.queued, n < h.clock
  nodup : (h.taken.map Taken.putAt ++ h.queued).Nodup

/-- What holds of an event that was taken: without an AES key nothing was written for it, and
otherwise the key was derived before and everything written is a payload of it under that key. -/
structure Justified (cr : Crates SK PK) (pb : Prost) (r : Taken) : Prop where
  putBefore : r.putAt < r.takenAt
  dropped : r.derived = none → r.values = []
  sent : ∀ at' key, r.derived = some (at', key) → at' < r.takenAt ∧
    ∀ v ∈ r.values, ∃ payload ∈ inputPayloads r.event, IsDataPacket cr pb key payload v

theorem knowsKey_start (storage : StorageService) :
    KnowsKey (start storage : BleTask SK).iface ⟨0, none, [], []⟩ where
  derived key hkey := by cases hkey
  earlier at' key hderived := by cases hderived

theorem tracks_start : Tracks [] ⟨0, none, [], []⟩ where
  length := rfl
  earlier n hn := by cases hn
  nodup := List.nodup_nil

theorem knowsKey_step (hcr : cr.Lawful) {h : Provenance} (hwf : WellFormed s.phase s.iface)
    (hkey : KnowsKey s.iface h) (hm : Moves cr pb s a t) :
    KnowsKey t.iface (provenance cr pb h s a t) := by
  refine ⟨fun key hactive => ?_, fun at' key hderived => ?_⟩
  · rcases activeKey_step hcr hwf hm hactive with ⟨deviceId, hnew, -⟩ | ⟨hnone, -, hold, -⟩
    · exact ⟨h.clock, by simp only [provenance, hnew]⟩
    · obtain ⟨at', hat⟩ := hkey.derived key hold
      exact ⟨at', by simp only [provenance, hnone, hat]⟩
  · simp only [provenance] at hderived ⊢
    cases hnew : derivedKey cr pb s a with
    | none =>
      rw [hnew] at hderived
      exact Nat.lt_succ_of_lt (hkey.earlier at' key hderived)
    | some load =>
      rw [hnew] at hderived
      obtain ⟨rfl, -⟩ := Prod.mk.inj (Option.some.inj hderived)
      exact Nat.lt_succ_self _

/-- A step that leaves the channel alone only moves the clock. -/
theorem Tracks.tick {inputs : List InputEvent} {h h' : Provenance} (ht : Tracks inputs h)
    (hclock : h'.clock = h.clock + 1) (hqueued : h'.queued = h.queued)
    (htaken : h'.taken = h.taken) : Tracks inputs h' := by
  refine ⟨by rw [hqueued, ht.length], ?_, by rw [htaken, hqueued]; exact ht.nodup⟩
  rw [htaken, hqueued, hclock]
  exact fun n hn => Nat.lt_succ_of_lt (ht.earlier n hn)

/-- Only putting and taking touch the input channel. -/
theorem inputs_step (hwf : WellFormed s.phase s.iface) (hm : Moves cr pb s a t)
    (hput : ∀ event, a ≠ .putInput event) (htake : ∀ envs, a ≠ .recvInput envs) :
    t.inputs = s.inputs := by
  cases hm with
  | putInput => exact absurd rfl (hput _)
  | recvInput => exact absurd rfl (htake _)
  | @idleCommand env cmd rest hphase hcmd =>
    exact (idleStep_keeps cr pb hwf hphase cmd rest env).inputs
  | command | greet | recvNotification => rw [after_inputs]
  | putCommand | notify | notifyLost | endStream | publish | publishNone | subscribe
  | subscribeFails | openStream | openStreamFails => rfl

theorem tracks_step {h : Provenance} (hwf : WellFormed s.phase s.iface)
    (ht : Tracks s.inputs h) (hm : Moves cr pb s a t) :
    Tracks t.inputs (provenance cr pb h s a t) := by
  by_cases hput : ∃ event, a = .putInput event
  · obtain ⟨event, rfl⟩ := hput
    cases hm
    refine ⟨by simp [provenance, ht.length], fun n hn => ?_, ?_⟩
    · have hn : n ∈ h.taken.map Taken.putAt ++ h.queued ++ [h.clock] := by
        rwa [List.append_assoc]
      rcases List.mem_append.mp hn with hn | hn
      · exact Nat.lt_succ_of_lt (ht.earlier n hn)
      · rw [List.mem_singleton.mp hn]
        exact Nat.lt_succ_self _
    -- the clock is ahead of every remembered time
    · change (h.taken.map Taken.putAt ++ (h.queued ++ [h.clock])).Nodup
      rw [← List.append_assoc]
      refine ht.nodup.append (List.nodup_singleton _) fun n hn hclock => ?_
      have hlt := ht.earlier n hn
      rw [List.mem_singleton.mp hclock] at hlt
      exact lt_irrefl _ hlt
  by_cases htake : ∃ envs, a = .recvInput envs
  · obtain ⟨envs, rfl⟩ := htake
    cases hm with
    | @recvInput _ deviceId event rest hphase hevent =>
      obtain ⟨putAt, queued, hqueued⟩ : ∃ putAt queued, h.queued = putAt :: queued :=
        List.exists_cons_of_length_pos (by rw [ht.length, hevent]; exact Nat.succ_pos _)
      have hlength := ht.length
      have hearlier := ht.earlier
      have hnodup := ht.nodup
      rw [hqueued] at hlength hearlier hnodup
      rw [hevent] at hlength
      refine ⟨?_, ?_, ?_⟩
      · simpa [provenance, hqueued] using hlength
      · intro n hn
        have hold : n ∈ h.taken.map Taken.putAt ++ putAt :: queued := by
          simpa [provenance, hevent, hqueued] using hn
        exact Nat.lt_succ_of_lt (hearlier n hold)
      · simpa [provenance, hevent, hqueued] using hnodup
  · rw [not_exists] at hput htake
    rw [inputs_step hwf hm hput htake]
    exact ht.tick rfl (provenance_queued hput htake) (provenance_taken htake)

theorem justified_step (hcr : cr.Lawful) {h : Provenance} (hwf : WellFormed s.phase s.iface)
    (hkey : KnowsKey s.iface h) (ht : Tracks s.inputs h)
    (hj : ∀ r ∈ h.taken, Justified cr pb r) (hm : Moves cr pb s a t) :
    ∀ r ∈ (provenance cr pb h s a t).taken, Justified cr pb r := by
  by_cases htake : ∃ envs, a = .recvInput envs
  swap
  · rw [provenance_taken (not_exists.mp htake)]
    exact hj
  obtain ⟨envs, rfl⟩ := htake
  cases hm with
  | @recvInput _ deviceId event rest hphase hevent =>
    obtain ⟨putAt, queued, hqueued⟩ : ∃ putAt queued, h.queued = putAt :: queued :=
      List.exists_cons_of_length_pos (by rw [ht.length, hevent]; exact Nat.succ_pos _)
    obtain ⟨values, hinput, hvalues⟩ :=
      handleInputEvent_spec hcr pb hwf.linked event envs
    intro r hr
    simp only [provenance, hevent, hqueued, after_iface, hinput, wrote_written,
      List.drop_left, List.mem_append, List.mem_singleton] at hr
    rcases hr with hr | rfl
    · exact hj r hr
    refine ⟨ht.earlier putAt (by simp [hqueued]), fun hnone => ?_, fun at' key hsome => ?_⟩
    -- something written needs an active key, and then its derivation is remembered
    · refine List.eq_nil_iff_forall_not_mem.mpr fun v hv => ?_
      obtain ⟨key, hactive, -⟩ := hvalues v hv
      obtain ⟨at', hat⟩ := hkey.derived key hactive
      simp [hactive, hat] at hnone
    · have hderived : h.derived = some (at', key) := by
        split_ifs at hsome
        exact hsome
      refine ⟨hkey.earlier at' key hderived, fun v hv => ?_⟩
      obtain ⟨key', hactive, hpayload⟩ := hvalues v hv
      obtain ⟨at'', hat⟩ := hkey.derived key' hactive
      -- the key it was written under is the one that is remembered
      obtain rfl : key' = key :=
        (Prod.mk.inj (Option.some.inj (hat.symm.trans hderived))).2
      exact hpayload

/-! ## Runs -/

/-- In every run, for every event taken from the input channel: what is written for it are
payloads of it under the AES key that was active when it was taken, and that key had been derived
before it was taken; without an AES key nothing is written for it. An event is taken once, so
that what was not written then is never written. -/
theorem input_taken_after_key (hcr : cr.Lawful) {p : BleTask SK × Provenance}
    (h : (withProvenance cr pb).Reachable p) :
    (∀ r ∈ p.2.taken, r.putAt < r.takenAt ∧ (r.derived = none → r.values = []) ∧
      ∀ at' key, r.derived = some (at', key) → at' < r.takenAt ∧
        ∀ v ∈ r.values, ∃ payload ∈ inputPayloads r.event, IsDataPacket cr pb key payload v) ∧
    (p.2.taken.map Taken.putAt).Nodup := by
  have hinv := h.invariant_withHistory
    (I := fun s h => WellFormed s.phase s.iface ∧ KnowsKey s.iface h ∧ Tracks s.inputs h ∧
      ∀ r ∈ h.taken, Justified cr pb r)
    (by
      rintro s ⟨storage, rfl⟩
      exact ⟨wellFormed_start storage, knowsKey_start storage, tracks_start, by simp⟩)
    (by
      rintro s h a t ⟨hwf, hkey, ht, hj⟩ - hst
      have hm := moves_of_step hst
      exact ⟨wellFormed_step hcr hwf hm, knowsKey_step hcr hwf hkey hm, tracks_step hwf ht hm,
        justified_step hcr hwf hkey ht hj hm⟩)
  obtain ⟨-, -, ht, hj⟩ := hinv
  exact ⟨fun r hr => ⟨(hj r hr).putBefore, (hj r hr).dropped, (hj r hr).sent⟩,
    (List.nodup_append.mp ht.nodup).1⟩

/-- Of two key reports, one taken before the challenge and one after it, the second is written. -/
theorem input_taken_after_key_sample :
    ∃ p : BleTask UInt8 × Provenance, p.2.taken.map (fun r => r.values.length) = [0, 1] ∧
      (∀ r ∈ p.2.taken, r.putAt < r.takenAt) ∧ (p.2.taken.map Taken.putAt).Nodup := by
  have hrun : ((withProvenance sampleCrates Sample.prost).replay (fun _ _ => True)
      (Sample.startTask, ⟨0, none, [], []⟩) (Sample.connectRun ++ Sample.inputRun ++
        Sample.pairRun 3 5 ++ Sample.challengeRun [9] ++ Sample.inputRun)).map
        (fun p => p.2.taken.map fun r => r.values.length) = some [0, 1] := by decide +kernel
  obtain ⟨p, hp, hlengths⟩ := Option.map_eq_some_iff.mp hrun
  obtain ⟨htaken, hnodup⟩ :=
    input_taken_after_key sampleCrates_lawful (.of_replay _ (.init ⟨⟨_, rfl⟩, rfl⟩) hp)
  exact ⟨p, hlengths, fun r hr => (htaken r hr).1, hnodup⟩

/-- An event that is put in the channel first of all, before any device is connected, is written
after the device has completed its challenge. -/
theorem queued_event_sent :
    ¬ ∀ p : BleTask UInt8 × Provenance, (withProvenance sampleCrates Sample.prost).Reachable p →
      ∀ r ∈ p.2.taken, r.values ≠ [] →
        ∃ at' key, r.derived = some (at', key) ∧ at' < r.putAt := by
  intro hclaim
  have hrun : ((withProvenance sampleCrates Sample.prost).replay (fun _ _ => True)
      (Sample.startTask, ⟨0, none, [], []⟩) (.putInput Sample.keycode :: Sample.connectRun ++
        Sample.pairRun 3 5 ++ Sample.challengeRun [9] ++ [.recvInput Sample.sendEnvs])).map
        (fun p => p.2.taken.map fun r => (r.putAt, r.values.length)) = some [(0, 1)] := by
    decide +kernel
  obtain ⟨p, hp, hfacts⟩ := Option.map_eq_some_iff.mp hrun
  obtain ⟨r, htaken, hr⟩ := List.map_eq_singleton_iff.mp hfacts
  obtain ⟨hput, hvalues⟩ := Prod.mk.inj hr
  obtain ⟨at', key, -, hlt⟩ := hclaim p (.of_replay _ (.init ⟨⟨_, rfl⟩, rfl⟩) hp) r
    (by rw [htaken]; exact List.mem_singleton_self r)
    (by rintro hnil; rw [hnil] at hvalues; cases hvalues)
  omega

end BleTask

end ToothPaste
