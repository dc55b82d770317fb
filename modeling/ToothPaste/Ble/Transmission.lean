import ToothPaste.Ble.Sample
import ToothPaste.Ble.Steps

/-!
# What is written to the packet characteristic

Every value written is our stored public key for the connected device, or a payload under the AES
key of the latest load for that device. A run keeps the latest load as its history: the device id
and the key of the last `load_device_keys` that returned `Ok`, until `generate_device_keys` runs.

The invariant `KeyOfLatest` ties the active key to that history and to the device id. It rests on
the loop of `run` being left by stopping only: the device id changes before the loop, and keys are
loaded in it.

* `writes_sealed`: every value written by any step of any run is of one of the two kinds, and no
  `unwrap` of a send panics.
-/

namespace ToothPaste

namespace BleTask

open EcdhContext BleInterface

variable {SK PK : Type} {cr : Crates SK PK} {pb : Prost}

/-- The latest successful load with no key generation since. -/
abbrev LatestLoad := Option (String × ByteArr 32)

/-- A load that returns `Ok` is the latest, and generating keys ends it. -/
def latestLoad (cr : Crates SK PK) (pb : Prost) (latest : LatestLoad) (s : BleTask SK)
    (a : BleAction SK) (_ : BleTask SK) : LatestLoad :=
  match derivedKey cr pb s a with
  | some load => some load
  | none => if generates cr s a then none else latest

/-- The active key is the one of the latest load, for the connected device. -/
def KeyOfLatest (i : BleInterface SK) (latest : LatestLoad) : Prop :=
  ∀ key, i.ecdh.activeKey = some key →
    ∃ deviceId, i.deviceId = some deviceId ∧ latest = some (deviceId, key)

/-- `value` is our stored public key for the connected device, or a payload under the key of the
latest load for the connected device. -/
def Sealed (cr : Crates SK PK) (pb : Prost) (i : BleInterface SK) (latest : LatestLoad)
    (value : Bytes) : Prop :=
  (∃ deviceId publicKey, i.deviceId = some deviceId ∧
    i.ecdh.getStoredPublicKey cr deviceId = .ok publicKey ∧ IsAuthPacket cr pb publicKey value) ∨
  ∃ deviceId key payload, i.deviceId = some deviceId ∧ latest = some (deviceId, key) ∧
    i.ecdh.activeKey = some key ∧ IsDataPacket cr pb key payload value

/-- `j` comes from `i` by writing sealed values. -/
def WritesSealed (cr : Crates SK PK) (pb : Prost) (i j : BleInterface SK) (latest : LatestLoad) :
    Prop :=
  ∃ values, j.ble.written = i.ble.written ++ values ∧ ∀ v ∈ values, Sealed cr pb j latest v

theorem writesSealed_of_written {i j : BleInterface SK} (latest : LatestLoad)
    (h : j.ble.written = i.ble.written) : WritesSealed cr pb i j latest :=
  ⟨[], by rw [h, List.append_nil], by simp⟩

/-- Data packets under the active key are sealed. -/
theorem writesSealed_wrote {i : BleInterface SK} {latest : LatestLoad} {values : List Bytes}
    (h : KeyOfLatest (i.wrote values) latest)
    (hvalues : ∀ v ∈ values, ∃ key, i.ecdh.activeKey = some key ∧
      ∃ payload, IsDataPacket cr pb key payload v) :
    WritesSealed cr pb i (i.wrote values) latest := by
  refine ⟨values, rfl, fun v hv => ?_⟩
  obtain ⟨key, hkey, payload, hv⟩ := hvalues v hv
  -- the active key is the one of the latest load
  obtain ⟨deviceId, hid, hlatest⟩ := h key hkey
  exact .inr ⟨deviceId, key, payload, hid, hlatest, hkey, hv⟩

/-! ## Steps -/

/-- Every step keeps the active key tied to its history. -/
theorem keyOfLatest_step (hcr : cr.Lawful) {s t : BleTask SK} {a : BleAction SK}
    {latest : LatestLoad} (hwf : WellFormed s.phase s.iface) (h : KeyOfLatest s.iface latest)
    (hm : Moves cr pb s a t) : KeyOfLatest t.iface (latestLoad cr pb latest s a t) := by
  intro key hkey
  -- the key is derived in this step, or neither it nor the history changes
  rcases activeKey_step hcr hwf hm hkey with ⟨deviceId, hnew, hid⟩ | ⟨hnone, hgen, hold, hid⟩
  · exact ⟨deviceId, hid, by rw [latestLoad, hnew]⟩
  · obtain ⟨deviceId, hi, hlatest⟩ := h key hold
    exact ⟨deviceId, hid.trans hi, by rw [latestLoad, hnone, hgen]; exact hlatest⟩

/-- Our new key is stored before it is written. -/
theorem writesSealed_pair (hcr : cr.Lawful) {i : BleInterface SK} (hlinked : i.Linked)
    {deviceId : String} (hid : i.deviceId = some deviceId) (pubKey : String) (env : PairEnv SK)
    (latest : LatestLoad) :
    WritesSealed cr pb i (i.handlePairDevice cr pb deviceId pubKey env).2 latest := by
  rcases handlePairDevice_cases hcr pb hlinked deviceId pubKey env with
      ⟨-, hpair⟩ | ⟨bytes, r, ecdh, -, -, hnew, hpair⟩
  · rw [hpair]
    exact writesSealed_of_written latest rfl
  · rw [hpair]
    cases r with
    | error e => exact writesSealed_of_written latest rfl
    -- the key that is written is the one the pairing has just stored
    | ok ourKey =>
      exact ⟨_, rfl, fun v hv => .inl
        ⟨deviceId, ourKey, hid, getStoredPublicKey_of_pair hcr hnew, mem_attempted hv⟩⟩

/-- Every step writes sealed values only. -/
theorem writesSealed_step (hcr : cr.Lawful) {s t : BleTask SK} {a : BleAction SK}
    {latest : LatestLoad} (hwf : WellFormed s.phase s.iface) (hm : Moves cr pb s a t)
    (h : KeyOfLatest t.iface latest) : WritesSealed cr pb s.iface t.iface latest := by
  cases hm with
  | putInput | putCommand | notify | notifyLost | endStream =>
    exact writesSealed_of_written latest rfl
  | @idleCommand env cmd rest hphase hcmd =>
    have hidle := idleStep_keeps cr pb hwf hphase cmd rest env
    exact writesSealed_of_written latest hidle.keys.written
  | @command env deviceId cmd rest hphase hcmd =>
    have hid := hwf.device deviceId (by rw [hphase]; rfl)
    rw [after_iface] at h ⊢
    rcases handleCommand_cases hcr pb hwf.linked deviceId cmd env.pair env.send with
        ⟨device, pubKey, rfl, hpair⟩ | ⟨-, r, values, hsend, hvalues⟩
    · rw [hpair]
      exact writesSealed_pair hcr hwf.linked hid pubKey env.pair latest
    · rw [hsend] at h ⊢
      exact writesSealed_wrote h hvalues
  | @greet write device hphase =>
    obtain ⟨values, hgreet, -, hvalues⟩ := greet_spec cr pb hwf.linked write
    rw [hgreet]
    exact ⟨values, rfl, fun v hv => .inl (hvalues v hv)⟩
  | publish | publishNone | subscribe | subscribeFails | openStream | openStreamFails =>
    exact writesSealed_of_written latest rfl
  | @recvInput envs deviceId event rest hphase hevent =>
    obtain ⟨values, hinput, hvalues⟩ :=
      handleInputEvent_spec hcr pb hwf.linked event envs
    rw [hinput] at h ⊢
    refine writesSealed_wrote h fun v hv => ?_
    obtain ⟨key, hkey, payload, -, hv⟩ := hvalues v hv
    exact ⟨key, hkey, payload, hv⟩
  | @recvNotification deviceId n rest hphase hn =>
    have hble := (s.iface.handleNotification_keeps cr pb deviceId n).1
    exact writesSealed_of_written latest (by rw [after_iface, hble])

/-! ## Runs -/

/-- The task with its latest load. -/
def withLatestLoad (cr : Crates SK PK) (pb : Prost) :
    Transition.System (BleTask SK × LatestLoad) (BleAction SK) :=
  (bleTask cr pb).withHistory none (latestLoad cr pb)

/-- In every run from start-up, every value a step writes to the packet characteristic is an
`AuthPacket` with the public key stored for the connected device, or a `DataPacket` with a
payload under the AES key of the latest load for the connected device, which is the active key;
and in no state can a send panic. -/
theorem writes_sealed (hcr : cr.Lawful) {p : BleTask SK × LatestLoad}
    (h : (withLatestLoad cr pb).Reachable p) :
    (∀ a q, (withLatestLoad cr pb).step p a = some q →
      ∃ values, q.1.iface.ble.written = p.1.iface.ble.written ++ values ∧
        ∀ v ∈ values, Sealed cr pb q.1.iface q.2 v) ∧
    ∀ data write, (p.1.iface.ble.writePacket data write).1 ≠ .error .panic := by
  have hinv : WellFormed p.1.phase p.1.iface ∧ KeyOfLatest p.1.iface p.2 := by
    refine h.invariant_withHistory
      (I := fun s latest => WellFormed s.phase s.iface ∧ KeyOfLatest s.iface latest) ?_ ?_
    · rintro s ⟨storage, rfl⟩
      exact ⟨wellFormed_start storage, nofun⟩
    · rintro s latest a t ⟨hwf, hkey⟩ - hst
      exact ⟨wellFormed_step hcr hwf (moves_of_step hst),
        keyOfLatest_step hcr hwf hkey (moves_of_step hst)⟩
  refine ⟨fun a q hst => ?_, fun data write => ?_⟩
  · obtain ⟨hst, hq⟩ := Transition.System.withHistory_step_iff.mp hst
    rw [hq]
    exact writesSealed_step hcr hinv.1 (moves_of_step hst)
      (keyOfLatest_step hcr hinv.1 hinv.2 (moves_of_step hst))
  · obtain ⟨r, hwrite, hr⟩ := writePacket_eq hinv.1.linked data write
    rw [hwrite]
    exact hr.1

/-- After pairing and a challenge, a key report is written as one sealed value. -/
theorem writes_sealed_sample :
    ∃ (p q : BleTask UInt8 × LatestLoad) (values : List Bytes), values.length = 1 ∧
      q.1.iface.ble.written = p.1.iface.ble.written ++ values ∧
      ∀ v ∈ values, Sealed sampleCrates Sample.prost q.1.iface q.2 v := by
  have hrun : ((withLatestLoad sampleCrates Sample.prost).replay (fun _ _ => True)
      (Sample.startTask, none) (Sample.connectRun ++ Sample.pairRun 3 5 ++
        Sample.challengeRun [9] ++ [.putInput Sample.keycode])).bind (fun p =>
      ((withLatestLoad sampleCrates Sample.prost).step p (.recvInput Sample.sendEnvs)).map fun q =>
        (p.1.iface.ble.written.length, q.1.iface.ble.written.length)) = some (1, 2) := by
    decide +kernel
  obtain ⟨p, hp, hstep⟩ := Option.bind_eq_some_iff.mp hrun
  obtain ⟨q, hq, hlengths⟩ := Option.map_eq_some_iff.mp hstep
  obtain ⟨hbefore, hafter⟩ := Prod.mk.inj hlengths
  obtain ⟨values, hwritten, hsealed⟩ :=
    (writes_sealed sampleCrates_lawful (.of_replay _ (.init ⟨⟨_, rfl⟩, rfl⟩) hp)).1 _ q hq
  refine ⟨p, q, values, ?_, hwritten, hsealed⟩
  rw [hwritten, List.length_append, hbefore] at hafter
  omega

end BleTask

end ToothPaste
