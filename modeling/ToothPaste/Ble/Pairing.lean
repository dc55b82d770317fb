import ToothPaste.Ble.Sample
import ToothPaste.Ble.Steps

/-!
# How far a pairing gets

`PairDevice` replaces the active session, puts the new session in the store's map, writes the map
to the file and writes our public key to the device, in this order, and undoes nothing when a later
step fails. `PairingStage` names what each failure leaves behind.

* `pairing_in_order`: in every reachable state, a pairing with an invalid key changes nothing and
  any other ends in one of the stages.
* `pairing_not_atomic`: a failure of the last step leaves the effects of the ones before.
-/

namespace ToothPaste

namespace BleTask

open EcdhContext BleInterface StorageService

variable {SK PK : Type} {cr : Crates SK PK} {pb : Prost}

/-- What a pairing that made `session` has left behind: `i` before it, `j` after it. -/
inductive PairingStage (cr : Crates SK PK) (pb : Prost) (i j : BleInterface SK)
    (deviceId : String) (env : PairEnv SK) (session : EcdhSession SK) : Prop
  /-- The session could not be encrypted: it is the active one, and nothing else happened. -/
  | generated (hstorage : j.ecdh.storage = i.ecdh.storage) (hble : j.ble = i.ble)
  /-- The file could not be written: the session is in memory, the file is as before or holds the
  beginning of the new text, and our public key was not sent. -/
  | inMemory (hstored : storedSession cr j.ecdh.storage deviceId = .ok session)
      (hflush : env.save.flush ≠ .completes)
      (hfile : j.ecdh.storage.file = i.ecdh.storage.file ∨
        ∃ text, j.ecdh.storage.file = some text ∧ text <+: cr.mapToJson j.ecdh.storage.db)
      (hble : j.ble = i.ble)
  /-- The session is in memory and on disk, and our public key was handed to the BLE write, whose
  outcome changes nothing. -/
  | onDisk (hstored : storedSession cr j.ecdh.storage deviceId = .ok session)
      (hflush : env.save.flush = .completes) (hfile : FileAgrees cr j.ecdh.storage)
      (hsent : ∃ value, IsAuthPacket cr pb session.selfPublicKey value ∧
        j.ble.written = i.ble.written ++ [value])

/-- The pairing happened as a whole: the session is active, in memory and on disk, and our public
key was written. -/
def PairedFully (cr : Crates SK PK) (pb : Prost) (i j : BleInterface SK) (deviceId : String)
    (env : PairEnv SK) : Prop :=
  ∃ session, j.ecdh.activeSession = some session ∧ session.deviceId = deviceId ∧
    storedSession cr j.ecdh.storage deviceId = .ok session ∧ FileAgrees cr j.ecdh.storage ∧
    env.write = .ok () ∧ ∃ value, IsAuthPacket cr pb session.selfPublicKey value ∧
      j.ble.written = i.ble.written ++ [value]

/-- The pairing did not happen at all: the stored session of the device and the active session
are as before. -/
def Unpaired (i j : BleInterface SK) (deviceId : String) : Prop :=
  j.ecdh.storage.db.lookup (sessionKey deviceId) =
    i.ecdh.storage.db.lookup (sessionKey deviceId) ∧
  j.ecdh.storage.file = i.ecdh.storage.file ∧ j.ecdh.activeSession = i.ecdh.activeSession

/-- The store's part of a pairing: nothing, the map only, or the map and the file. -/
theorem set_stages (hcr : cr.Lawful) (s : StorageService) (deviceId : String) {json : Bytes}
    {session : EcdhSession SK} (hfrom : EcdhSession.fromJson cr json = .ok session)
    (env : SaveEnv) :
    let r := s.set cr (sessionKey deviceId) json env.nonce env.flush
    (∀ id, id ≠ deviceId → r.2.db.lookup (sessionKey id) = s.db.lookup (sessionKey id)) ∧
    ((∃ e, r.1 = .error e ∧ r.2 = s) ∨
      storedSession cr r.2 deviceId = .ok session ∧
        ((∃ e, r.1 = .error e ∧ env.flush ≠ .completes ∧
          (r.2.file = s.file ∨ ∃ text, r.2.file = some text ∧ text <+: cr.mapToJson r.2.db)) ∨
        r.1 = .ok () ∧ env.flush = .completes ∧ FileAgrees cr r.2)) := by
  intro r
  cases hseal : sealEntry cr s.cipher env.nonce json with
  | none =>
    -- nothing has been changed when the encryption fails
    have hr : r = (.error "encryption failed", s) := set_of_not_sealed hseal _ _
    rw [hr]
    exact ⟨fun _ _ => rfl, .inl ⟨_, rfl, rfl⟩⟩
  | some entry =>
    have hget := get_set_of_sealed hcr hseal (sessionKey deviceId) env.flush
    have hr : r = flush cr { s with db := s.db.insert (sessionKey deviceId) entry } env.flush :=
      set_of_sealed hseal _ _
    have hdb : r.2.db = s.db.insert (sessionKey deviceId) entry := by rw [hr, flush_db]
    -- the entry is in the map, whatever becomes of the file
    refine ⟨fun id hid => ?_, .inr ⟨?_, ?_⟩⟩
    · rw [hdb, AList.lookup_insert_ne (sessionKey_injective.ne hid)]
    · simp only [storedSession, r, hget, hfrom]
    · cases hok : r.1 with
      | error e =>
        refine .inl ⟨e, rfl, fun hflush => ?_, ?_⟩
        · rw [hr, hflush] at hok
          cases hok
        · have hfile := flush_file cr
            { s with db := s.db.insert (sessionKey deviceId) entry } env.flush
          rwa [← hr, ← hdb] at hfile
      | ok u =>
        have hflush : env.flush = .completes := flush_ok_iff.mp (hr ▸ hok)
        refine .inr ⟨rfl, hflush, ?_⟩
        rw [hr, hflush]
        exact fileAgrees_flush hcr _

/-- A pairing of a linked interface with a cached peripheral ends in one of the stages. -/
theorem handlePairDevice_stages (hcr : cr.Lawful) {i : BleInterface SK} (hlinked : i.Linked)
    (hcached : i.ble.cachedPeripheral.isSome = true) (deviceId pubKey : String)
    (env : PairEnv SK) :
    let j := (i.handlePairDevice cr pb deviceId pubKey env).2
    (pairable cr pubKey = false ∧ j = i) ∨
    (pairable cr pubKey = true ∧
      (∀ id, id ≠ deviceId → j.ecdh.storage.db.lookup (sessionKey id) =
        i.ecdh.storage.db.lookup (sessionKey id)) ∧
      ∃ session, j.ecdh.activeSession = some session ∧ session.deviceId = deviceId ∧
        session.selfPrivateKey = env.privateKey ∧ session.aesKey = none ∧
        PairingStage cr pb i j deviceId env session) := by
  intro j
  rcases handlePairDevice_cases hcr pb hlinked deviceId pubKey env with
      ⟨hnone, hpair⟩ | ⟨bytes, r, ecdh, hparse, ⟨peer, hpeer⟩, hnew, hpair⟩
  · exact .inl ⟨pairable_eq_false_iff.mpr hnone, by simp only [j, hpair]⟩
  rcases pairNewDevice_cases hcr i.ecdh bytes deviceId env.privateKey env.save with
      ⟨e, hnone, -⟩ | ⟨_, peerPublicKey, publicKey, json, -, -, -, -, hfrom, hcases⟩
  · rw [hpeer] at hnone; cases hnone
  obtain ⟨hr, hecdh⟩ := Prod.mk.inj (hnew.symm.trans hcases)
  obtain ⟨hothers, hstages⟩ := set_stages hcr i.ecdh.storage deviceId hfrom env.save
  -- the context after the pairing, whatever is written afterwards
  have hj : j.ecdh = ecdh := by cases r <;> simp only [j, hpair, wrote_ecdh]
  refine .inr ⟨by simp [pairable, hparse, hpeer], ?_,
    pairedSession deviceId env.privateKey publicKey peerPublicKey, by rw [hj, hecdh], rfl, rfl, rfl,
    ?_⟩
  · rw [hj, hecdh]
    exact hothers
  rcases hstages with
      ⟨e, herror, hsame⟩ | ⟨hstored, ⟨e, herror, hflush, hfile⟩ | ⟨hok, hflush, hfile⟩⟩
  -- `set` refused the session
  · have hr : r = .error e := by rw [hr, herror]; rfl
    subst hr
    exact .generated (by rw [hj, hecdh, hsame]) (by simp only [j, hpair])
  -- the flush failed
  · have hr : r = .error e := by rw [hr, herror]; rfl
    subst hr
    exact .inMemory (by rw [hj, hecdh]; exact hstored) hflush (by rw [hj, hecdh]; exact hfile)
      (by simp only [j, hpair])
  -- both succeeded, so that our public key is written
  · have hr : r = .ok publicKey := by rw [hr, hok]; rfl
    subst hr
    refine .onDisk (by rw [hj, hecdh]; exact hstored) hflush (by rw [hj, hecdh]; exact hfile)
      ⟨_, rfl, ?_⟩
    simp only [j, hpair, wrote_written, attempted, hcached, ↓reduceIte]
    rfl

/-- In every reachable state inside `run`, a `PairDevice` whose key is no compressed point changes
nothing and writes nothing. Any other makes the new session, without an AES key, the active one,
leaves the sessions of the other devices alone, and ends in one of the stages. -/
theorem pairing_in_order (hcr : cr.Lawful) {s t : BleTask SK}
    (h : (bleTask cr pb).Reachable s) {deviceId pubKey : String} {device : Device}
    {rest : List AppCommand} {env : CommandEnv SK} (hphase : s.phase = .running deviceId)
    (hcmd : s.commands = .pairDevice device pubKey :: rest)
    (hstep : (bleTask cr pb).step s (.recvCommand env) = some t) :
    (pairable cr pubKey = false ∧ t.iface = s.iface) ∨
    (pairable cr pubKey = true ∧
      (∀ id, id ≠ deviceId → t.iface.ecdh.storage.db.lookup (sessionKey id) =
        s.iface.ecdh.storage.db.lookup (sessionKey id)) ∧
      ∃ session, t.iface.ecdh.activeSession = some session ∧ session.deviceId = deviceId ∧
        session.selfPrivateKey = env.pair.privateKey ∧ session.aesKey = none ∧
        PairingStage cr pb s.iface t.iface deviceId env.pair session) := by
  have hwf := wellFormed_of_reachable hcr h
  rw [hphase] at hwf
  have ht : t.iface = (s.iface.handlePairDevice cr pb deviceId pubKey env.pair).2 := by
    have hstep : BleTask.step cr pb s (.recvCommand env) = some t := hstep
    simp only [BleTask.step, hphase, hcmd, Option.some.injEq] at hstep
    rw [← hstep, after_iface]
    rfl
  rw [ht]
  exact handlePairDevice_stages hcr hwf.linked (hwf.cached rfl) deviceId pubKey env.pair

/-- In the loop, with a `PairDevice` in the channel, there is a state to take it in and the BLE
write of our public key fails. -/
theorem exists_failing_write :
    ∃ s t : BleTask UInt8, (bleTask sampleCrates Sample.prost).Reachable s ∧
      s.phase = .running "a1" ∧
      s.commands = [.pairDevice Sample.device (Sample.pubKeyText 3)] ∧
      (bleTask sampleCrates Sample.prost).step s (.recvCommand (Sample.failingWriteEnv 5)) =
        some t ∧
      s.iface.ecdh.activeSession.isSome = false ∧ t.iface.ecdh.activeSession.isSome = true := by
  have hrun : ((bleTask sampleCrates Sample.prost).replay (fun _ _ => True) Sample.startTask
      (Sample.connectRun ++ [.putCommand (.pairDevice Sample.device (Sample.pubKeyText 3))])).bind
      (fun s => ((bleTask sampleCrates Sample.prost).step s
        (.recvCommand (Sample.failingWriteEnv 5))).map fun t => (s.phase, s.commands,
          s.iface.ecdh.activeSession.isSome, t.iface.ecdh.activeSession.isSome)) =
      some (.running "a1", [.pairDevice Sample.device (Sample.pubKeyText 3)], false, true) := by
    decide +kernel
  obtain ⟨s, hs, hstep⟩ := Option.bind_eq_some_iff.mp hrun
  obtain ⟨t, ht, hfacts⟩ := Option.map_eq_some_iff.mp hstep
  simp only [Prod.mk.injEq] at hfacts
  obtain ⟨hphase, hcmd, hbefore, hafter⟩ := hfacts
  exact ⟨s, t, .of_replay _ (.init ⟨_, rfl⟩) hs, hphase, hcmd, ht, hbefore, hafter⟩

/-- With the failing write, the pairing ends in a stage all the same. -/
theorem pairing_in_order_sample :
    ∃ (s t : BleTask UInt8) (session : EcdhSession UInt8),
      t.iface.ecdh.activeSession = some session ∧
      PairingStage sampleCrates Sample.prost s.iface t.iface "a1"
        (Sample.failingWriteEnv 5).pair session := by
  obtain ⟨s, t, hs, hphase, hcmd, ht, -, -⟩ := exists_failing_write
  rcases pairing_in_order sampleCrates_lawful hs hphase hcmd ht with
      ⟨hinvalid, -⟩ | ⟨-, -, session, hactive, -, -, -, hstage⟩
  · have hvalid : pairable sampleCrates (Sample.pubKeyText 3) = true := by decide +kernel
    rw [hvalid] at hinvalid
    cases hinvalid
  · exact ⟨s, t, session, hactive, hstage⟩

/-- Pairing is not all or nothing: when the BLE write of our public key fails, the new session has
already replaced the active one. -/
theorem pairing_not_atomic :
    ¬ ∀ (s t : BleTask UInt8) (deviceId pubKey : String) (device : Device)
      (rest : List AppCommand) (env : CommandEnv UInt8),
      (bleTask sampleCrates Sample.prost).Reachable s → s.phase = .running deviceId →
      s.commands = .pairDevice device pubKey :: rest →
      (bleTask sampleCrates Sample.prost).step s (.recvCommand env) = some t →
      PairedFully sampleCrates Sample.prost s.iface t.iface deviceId env.pair ∨
        Unpaired s.iface t.iface deviceId := by
  intro hclaim
  obtain ⟨s, t, hs, hphase, hcmd, ht, hbefore, hafter⟩ := exists_failing_write
  -- the failed write rules out the one, the replaced session the other
  rcases hclaim s t _ _ _ _ _ hs hphase hcmd ht with
      ⟨session, -, -, -, -, hwrite, -⟩ | ⟨-, -, hsame⟩
  · cases hwrite
  · rw [hsame, hbefore] at hafter
    cases hafter

end BleTask

end ToothPaste
