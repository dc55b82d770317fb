import ToothPaste.Ble.Authentication
import ToothPaste.Ble.Pairing

/-!
# What the device can read

The device at the other end of the connection has the private key of the public key that is typed in
when it is paired. It hears our public key, which is sent in the clear when it is paired and each
time it is connected again, and it knows the challenges it has sent. From these it computes a key
(`Peer.key`).

* `device_reads`: in every run in which our public keys get across, are saved, and are made for the
  key of the device, each value that is written is our public key as the device has it then, or a
  packet that the device opens with the key it computes.
-/

namespace ToothPaste

open EcdhContext BleInterface StorageService

variable {SK PK : Type}

/-- What a device has heard of since it was connected: our public key, and its challenge that we
took last. -/
structure Peer where
  publicKey : Option (ByteArr 65)
  challenge : Option Bytes

/-- The key a device computes from its private key. -/
def Peer.key (cr : Crates SK PK) (privateKey : SK) (d : Peer) : Option (ByteArr 32) :=
  d.publicKey.bind fun bytes => (cr.fromSec1Bytes bytes.toList).bind fun publicKey =>
    d.challenge.map fun data => challengeKey cr privateKey publicKey data

/-- The packet is one that the key opens, with the payload in it. -/
def Opens (cr : Crates SK PK) (pb : Prost) (key : ByteArr 32) (payload : EncryptedData)
    (value : Bytes) : Prop :=
  ∃ (packet : DataPacket) (nonce : ByteArr 12), value = pb.encodeDataPacket packet ∧
    packet.packetId = .dataPacket ∧ packet.iv = nonce.toList ∧
    cr.aesGcmDecrypt key nonce (packet.encryptedData ++ packet.tag) =
      some (pb.encodeEncryptedData payload)

variable {cr : Crates SK PK} {pb : Prost}

theorem opens_of_isDataPacket (hcr : cr.Lawful) {key : ByteArr 32} {payload : EncryptedData}
    {value : Bytes} (h : IsDataPacket cr pb key payload value) : Opens cr pb key payload value := by
  obtain ⟨packet, nonce, rfl, hid, hiv, -, hseal⟩ := h
  exact ⟨packet, nonce, rfl, hid, hiv, hcr.aesGcmDecrypt_encrypt _ _ _ _ hseal⟩

/-! ## Sessions -/

/-- The session is one with the device that has the private key. -/
structure SessionWith (cr : Crates SK PK) (privateKey : SK) (session : EcdhSession SK) :
    Prop where
  publicKey : session.selfPublicKey.toList = cr.toEncodedPoint (cr.publicKey session.selfPrivateKey)
  peer : cr.fromSec1Bytes session.peerPublicKey.toList = some (cr.publicKey privateKey)

/-- Every stored session is one with its device. -/
def WellPaired (cr : Crates SK PK) (secret : String → SK) (storage : StorageService) : Prop :=
  ∀ deviceId session, storedSession cr storage deviceId = .ok session →
    SessionWith cr (secret deviceId) session

/-- A new store has no sessions. -/
theorem wellPaired_empty {secret : String → SK} {masterKey : ByteArr 32}
    {password : Option String} :
    WellPaired cr secret (StorageService.empty cr masterKey password) := by
  intro deviceId session hsession
  rw [storedSession, get_absent rfl] at hsession
  cases hsession

/-- Both ends compute the same key. -/
theorem key_of_sessionWith (hcr : cr.Lawful)
    (hdh : ∀ a b, cr.diffieHellman a (cr.publicKey b) = cr.diffieHellman b (cr.publicKey a))
    {privateKey : SK} {session : EcdhSession SK} (h : SessionWith cr privateKey session)
    (data : Bytes) :
    Peer.key cr privateKey ⟨some session.selfPublicKey, some data⟩ =
      some (challengeKey cr session.selfPrivateKey (cr.publicKey privateKey) data) := by
  simp only [Peer.key, Option.bind_some, h.publicKey, hcr.fromSec1Bytes_toEncodedPoint,
    Option.map_some, challengeKey, hdh privateKey session.selfPrivateKey]

/-- What is read depends on the entries and on the cipher. -/
theorem storedSession_congr {s t : StorageService} {deviceId : String}
    (hentry : t.db.lookup (sessionKey deviceId) = s.db.lookup (sessionKey deviceId))
    (hcipher : t.cipher = s.cipher) :
    storedSession cr t deviceId = storedSession cr s deviceId := by
  rw [storedSession, storedSession, StorageService.get, StorageService.get, hentry, hcipher]

theorem set_cipher (s : StorageService) (key : String) (value : Bytes) (nonce : ByteArr 12)
    (env : FlushEnv) : (s.set cr key value nonce env).2.cipher = s.cipher := by
  cases hseal : sealEntry cr s.cipher nonce value with
  | none => rw [set_of_not_sealed hseal]
  | some entry => rw [set_of_sealed hseal, flush_cipher]

/-- The condition on a pairing: the key is that of the device, and everything succeeds. -/
def PairingArrives (cr : Crates SK PK) (secret : String → SK) (deviceId pubKey : String)
    (env : PairEnv SK) : Prop :=
  ∀ bytes ∈ parsePubKey cr pubKey, ∀ peer ∈ cr.fromSec1Bytes bytes.toList,
    peer = cr.publicKey (secret deviceId) ∧ env.save.flush = .completes ∧ env.write = .ok ()

/-- How a pairing goes that meets the condition: nothing changes, or the new session is active
without a key and either is not stored, and nothing else happens, or is stored and our public key is
written. -/
inductive Paired (cr : Crates SK PK) (pb : Prost) (secret : String → SK) (i : BleInterface SK)
    (deviceId : String) (write : Except String Unit) (j : BleInterface SK) : Prop
  | unchanged (hsame : j = i)
  | unstored (hstorage : j.ecdh.storage = i.ecdh.storage) (hkey : j.ecdh.activeKey = none)
      (hble : j.ble = i.ble)
  | stored {session : EcdhSession SK} (hpaired : WellPaired cr secret j.ecdh.storage)
      (hkey : j.ecdh.activeKey = none)
      (hstored : storedSession cr j.ecdh.storage deviceId = .ok session) (hwrite : write = .ok ())
      (hwritten : ∃ value, IsAuthPacket cr pb session.selfPublicKey value ∧
        j.ble.written = i.ble.written ++ [value])

theorem paired_of_arrives (hcr : cr.Lawful) {secret : String → SK} {i : BleInterface SK}
    (hlinked : i.Linked) (hcached : i.ble.cachedPeripheral.isSome = true)
    (hpaired : WellPaired cr secret i.ecdh.storage) {deviceId pubKey : String} {env : PairEnv SK}
    (harrives : PairingArrives cr secret deviceId pubKey env) :
    Paired cr pb secret i deviceId env.write (i.handlePairDevice cr pb deviceId pubKey env).2 := by
  rcases handlePairDevice_cases hcr pb hlinked deviceId pubKey env with
      ⟨-, hpair⟩ | ⟨bytes, r, ecdh, hparse, ⟨peer, hpeer⟩, hnew, hpair⟩
  · rw [hpair]
    exact .unchanged rfl
  obtain ⟨rfl, hflush, hwrite⟩ := harrives bytes hparse peer hpeer
  rcases pairNewDevice_cases hcr i.ecdh bytes deviceId env.privateKey env.save with
      ⟨e, hnone, -⟩ |
      ⟨peer, peerPublicKey, publicKey, json, hsome, hpoint, hpublic, -, hfrom, hcases⟩
  · rw [hpeer] at hnone
    cases hnone
  obtain rfl := Option.some.inj (hpeer.symm.trans hsome)
  obtain ⟨hr, rfl⟩ := Prod.mk.inj (hnew.symm.trans hcases)
  obtain ⟨hothers, ⟨e, hset, hstorage⟩ | ⟨hstored, ⟨e, -, hfails, -⟩ | ⟨hset, -, -⟩⟩⟩ :=
    BleTask.set_stages hcr i.ecdh.storage deviceId hfrom env.save
  -- the session was too long to be encrypted
  · rw [hset] at hr
    subst hr
    rw [hpair]
    exact .unstored hstorage rfl rfl
  · exact absurd hflush hfails
  · rw [hset] at hr
    subst hr
    rw [hpair]
    refine .stored (fun id session' hsession' => ?_) rfl hstored hwrite ⟨_, rfl, ?_⟩
    · by_cases hid : id = deviceId
      · subst hid
        obtain rfl := Except.ok.inj (hstored.symm.trans hsession')
        exact ⟨hpublic, hpoint⟩
      -- the other sessions are as they were
      · refine hpaired id session' ?_
        rw [← hsession']
        exact (storedSession_congr (hothers id hid) (set_cipher ..)).symm
    · exact congrArg (i.ble.written ++ ·) (if_pos hcached)

/-- The greeting of a device with a stored session writes our public key in it. -/
theorem greet_of_finds {i : BleInterface SK} (h : i.Linked)
    (hcached : i.ble.cachedPeripheral.isSome = true) {deviceId : String}
    (hid : i.deviceId = some deviceId) {session : EcdhSession SK}
    (hfinds : i.ecdh.Finds cr deviceId session) (write : Except String Unit) :
    (i.greet cr pb write).2 =
      i.wrote [createUnencryptedPacket pb (cr.base64Encode session.selfPublicKey.toList)] := by
  obtain ⟨hhas, hstored⟩ := hfinds
  have hknown : i.isDeviceKnown = true := by rw [isDeviceKnown, hid]; exact hhas
  have hkey : i.ecdh.getStoredPublicKey cr deviceId = .ok session.selfPublicKey := by
    rw [getStoredPublicKey, hstored]
    rfl
  obtain ⟨r, hsend, -⟩ := sendUnencrypted_eq pb h (cr.base64Encode session.selfPublicKey.toList)
    write
  rw [greet, if_pos hknown, reported_snd, sendPublicKey, hid]
  simp only [hkey, hsend, attempted, if_pos hcached]

/-! ## Runs -/

/-- The greeting is over: our public key has been sent to the device, if it is known. -/
def Phase.greeted : Phase → Bool
  | .publishing _ | .subscribing _ | .opening _ | .running _ => true
  | _ => false

namespace BleTask

/-- Our public key, if a step gets it across in the clear. -/
def announced (cr : Crates SK PK) (s : BleTask SK) (a : BleAction SK) (t : BleTask SK) :
    Option (ByteArr 65) :=
  if s.iface.ble.written.length < t.iface.ble.written.length then
    match a with
    | .greet (.ok ()) => t.iface.deviceId.bind fun deviceId =>
      (t.iface.ecdh.getStoredPublicKey cr deviceId).toOption
    | .recvCommand env =>
      match handledPairing s a, env.pair.write with
      | some (deviceId, _), .ok () => (t.iface.ecdh.getStoredPublicKey cr deviceId).toOption
      | _, _ => none
    | _ => none
  else none

/-- What the device has heard of after a step. A device that has just been connected has heard of
nothing. -/
def heard (cr : Crates SK PK) (pb : Prost) (d : Peer) (s : BleTask SK) (a : BleAction SK)
    (t : BleTask SK) : Peer :=
  match t.phase with
  | .greeting _ => ⟨none, none⟩
  | _ => ⟨(announced cr s a t).or d.publicKey, lastChallenge pb d.challenge s a t⟩

/-- The task with what the device has heard of, started with sessions that are each with its
device. -/
def withPeer (cr : Crates SK PK) (pb : Prost) (secret : String → SK) :
    Transition.System (BleTask SK × Peer) (BleAction SK) :=
  Transition.System.withHistory
    { bleTask cr pb with
      Init := fun s => ∃ storage, WellPaired cr secret storage ∧ s = BleTask.start storage }
    ⟨none, none⟩ (heard cr pb)

/-- The condition on a step: our public key gets across, and a pairing is with the device and is
saved. -/
def Arrives (cr : Crates SK PK) (secret : String → SK) (s : BleTask SK) (a : BleAction SK) : Prop :=
  match a with
  | .greet write => write = .ok ()
  | .recvCommand env => ∀ pairing ∈ handledPairing s a,
    PairingArrives cr secret pairing.1 pairing.2 env.pair
  | _ => True

variable {secret : String → SK} {s t : BleTask SK} {a : BleAction SK} {d : Peer}

/-- The key that is active is the one the device computes. -/
def Computes (cr : Crates SK PK) (secret : String → SK) (i : BleInterface SK) (d : Peer) : Prop :=
  ∀ key, i.ecdh.activeKey = some key → ∃ deviceId session, i.deviceId = some deviceId ∧
    i.ecdh.Finds cr deviceId session ∧ d.key cr (secret deviceId) = some key

/-- The device has the public key of its stored session. -/
def Heard (cr : Crates SK PK) (i : BleInterface SK) (d : Peer) : Prop :=
  i.ble.cachedPeripheral.isSome = true → ∀ deviceId session, i.deviceId = some deviceId →
    i.ecdh.Finds cr deviceId session → d.publicKey = some session.selfPublicKey

/-- What holds in every run that meets the condition. -/
structure Agrees (cr : Crates SK PK) (secret : String → SK) (s : BleTask SK) (d : Peer) : Prop where
  paired : WellPaired cr secret s.iface.ecdh.storage
  heard : s.phase.greeted = true → Heard cr s.iface d
  computes : Computes cr secret s.iface d

/-- Before the loop is entered there is no key. -/
theorem computes_of_keyless {i : BleInterface SK} (h : i.ecdh.activeKey = none) :
    Computes cr secret i d := by
  intro key hkey
  rw [h] at hkey
  cases hkey

/-- Nothing happens that concerns the keys. -/
theorem Agrees.congr (h : Agrees cr secret s d) (hecdh : t.iface.ecdh = s.iface.ecdh)
    (hid : t.iface.deviceId = s.iface.deviceId)
    (hcached : t.iface.ble.cachedPeripheral = s.iface.ble.cachedPeripheral)
    (hphase : t.phase.greeted = true → s.phase.greeted = true) : Agrees cr secret t d where
  paired := by rw [hecdh]; exact h.paired
  heard hgreeted := by
    rw [Heard, hecdh, hid, hcached]
    exact h.heard (hphase hgreeted)
  computes := by
    rw [Computes, hecdh, hid]
    exact h.computes

/-- Without a key and before the greeting it does not matter what the device has heard of. -/
theorem Agrees.of_keyless (hpaired : WellPaired cr secret t.iface.ecdh.storage)
    (hkey : t.iface.ecdh.activeKey = none) (hgreeted : t.phase.greeted = false) :
    Agrees cr secret t d where
  paired := hpaired
  heard h := by rw [hgreeted] at h; cases h
  computes := computes_of_keyless hkey

/-- What a step that is no greeting and no pairing makes of what the device has heard of. -/
theorem heard_of_quiet (hphase : ∀ device, t.phase ≠ .greeting device)
    (hannounced : announced cr s a t = none) (hchallenge : handledChallenge pb s a = none) :
    heard cr pb d s a t = d := by
  rw [heard]
  split
  · exact absurd ‹_› (hphase _)
  · rw [hannounced, lastChallenge, hchallenge]
    rfl

/-- A step that keeps to the phase it is in, and does not concern the keys. -/
theorem agrees_quiet (h : Agrees cr secret s d) (hwf : WellFormed t.phase t.iface)
    (hecdh : t.iface.ecdh = s.iface.ecdh) (hid : t.iface.deviceId = s.iface.deviceId)
    (hcached : t.iface.ble.cachedPeripheral = s.iface.ble.cachedPeripheral)
    (hphase : t.phase.greeted = true → s.phase.greeted = true)
    (hannounced : announced cr s a t = none) (hchallenge : handledChallenge pb s a = none) :
    Agrees cr secret t (heard cr pb d s a t) := by
  by_cases hgreeting : ∃ device, t.phase = .greeting device
  · obtain ⟨device, hdevice⟩ := hgreeting
    refine .of_keyless ?_ (hwf.keyless (by rw [hdevice]; rfl)) (by rw [hdevice]; rfl)
    rw [hecdh]
    exact h.paired
  · rw [heard_of_quiet (fun device hdevice => hgreeting ⟨device, hdevice⟩) hannounced hchallenge]
    exact h.congr hecdh hid hcached hphase

/-- Nothing is announced in a step that writes nothing. -/
theorem announced_of_written (h : t.iface.ble.written = s.iface.ble.written) :
    announced cr s a t = none := by
  unfold announced
  exact if_neg (by rw [h]; exact lt_irrefl _)

/-- A command that `ble_task` takes itself does not get as far as the greeting. -/
theorem greeted_idleCommand (hphase : s.phase = .idle) (cmd : AppCommand) (env : CommandEnv SK) :
    (idleCommand cr pb s cmd env).phase.greeted = false := by
  have hafter : ∀ r, (s.after .idle r).phase.greeted = false := fun r => by
    rcases s.after_phase .idle r with h | h <;> rw [h] <;> rfl
  cases cmd with
  | scanForDevices | sendKeyboardInput | sendMouseJiggle => exact hafter _
  | connectToDevice device =>
    rw [idleCommand]
    rcases s.iface.connectBle device env.connect with ⟨_ | _, iface⟩
    · exact hafter _
    · rfl
  | killService => rfl
  | disconnectDevice | pairDevice | updateSettings =>
    show s.phase.greeted = false
    rw [hphase]
    rfl

/-- The greeting: a device with a stored session hears our public key. -/
theorem agrees_greet (h : Agrees cr secret s d) (hwf : WellFormed s.phase s.iface)
    {device : Device} (hphase : s.phase = .greeting device) :
    Agrees cr secret (s.after (.publishing device) (s.iface.greet cr pb (.ok ())))
      (heard cr pb d s (.greet (.ok ()))
        (s.after (.publishing device) (s.iface.greet cr pb (.ok ())))) := by
  obtain ⟨values, hgreet, -, -⟩ := greet_spec cr pb hwf.linked (.ok ())
  have hkey : s.iface.ecdh.activeKey = none := hwf.keyless (by rw [hphase]; rfl)
  rw [hgreet, after_ok]
  refine ⟨h.paired, fun _ hcached deviceId session hid hfinds => ?_, computes_of_keyless hkey⟩
  -- the device has a stored session, which is greeted with
  have hwrote : (s.iface.greet cr pb (.ok ())).2 = _ :=
    greet_of_finds hwf.linked hcached hid hfinds (.ok ())
  rw [hgreet] at hwrote
  dsimp only at hwrote
  obtain ⟨-, hstored⟩ := hfinds
  have hstored' : s.iface.ecdh.getStoredPublicKey cr deviceId = .ok session.selfPublicKey :=
    congrArg (Except.map _) hstored
  have hid' : s.iface.deviceId = some deviceId := hid
  rw [hwrote, heard, announced, if_pos (by simp)]
  simp [hid', hstored', Except.toOption]

/-- Where a command or a notification of the loop leaves the task. -/
theorem after_running (s : BleTask SK) (deviceId : String)
    (r : Except Fault Unit × BleInterface SK) (d : Peer) (a : BleAction SK) (u : BleTask SK) :
    heard cr pb d u a (s.after (.running deviceId) r) =
      ⟨(announced cr u a (s.after (.running deviceId) r)).or d.publicKey,
        lastChallenge pb d.challenge u a (s.after (.running deviceId) r)⟩ := by
  rw [heard]
  rcases s.after_phase (.running deviceId) r with h | h <;> rw [h]

/-- The public key that a pairing announces. -/
theorem announced_of_pair {env : CommandEnv SK} {deviceId pubKey : String} {device : Device}
    {rest : List AppCommand} (hphase : s.phase = .running deviceId)
    (hcmd : s.commands = .pairDevice device pubKey :: rest) (hwrite : env.pair.write = .ok ())
    {session : EcdhSession SK}
    (hstored : storedSession cr t.iface.ecdh.storage deviceId = .ok session) {value : Bytes}
    (hwritten : t.iface.ble.written = s.iface.ble.written ++ [value]) :
    announced cr s (.recvCommand env) t = some session.selfPublicKey := by
  have hkey : t.iface.ecdh.getStoredPublicKey cr deviceId = .ok session.selfPublicKey :=
    congrArg (Except.map _) hstored
  unfold announced
  rw [if_pos (by rw [hwritten]; simp), handledPairing_eq hphase hcmd]
  dsimp only
  rw [hwrite]
  exact congrArg Except.toOption hkey

/-- A pairing: our new public key is heard, and there is no key until the next challenge. -/
theorem agrees_pair (hcr : cr.Lawful) (h : Agrees cr secret s d)
    (hwf : WellFormed s.phase s.iface) {env : CommandEnv SK} {deviceId pubKey : String}
    {device : Device} {rest : List AppCommand} (hphase : s.phase = .running deviceId)
    (hcmd : s.commands = .pairDevice device pubKey :: rest)
    (harrives : PairingArrives cr secret deviceId pubKey env.pair)
    (ht : t = after { s with commands := rest } (.running deviceId)
      (s.iface.handlePairDevice cr pb deviceId pubKey env.pair)) :
    Agrees cr secret t (heard cr pb d s (.recvCommand env) t) := by
  have hcached := hwf.cached (by rw [hphase]; rfl)
  have hdevice := hwf.device deviceId (by rw [hphase]; rfl)
  have hpaired : Paired cr pb secret s.iface deviceId env.pair.write t.iface := by
    rw [ht, after_iface]
    exact paired_of_arrives hcr hwf.linked hcached h.paired harrives
  obtain ⟨ecdh, values, hpair⟩ := handlePairDevice_eq hcr pb hwf.linked deviceId pubKey env.pair
  have hid : t.iface.deviceId = s.iface.deviceId := by rw [ht, after_iface, hpair]; rfl
  have hsame : t.iface.ble.cachedPeripheral = s.iface.ble.cachedPeripheral := by
    rw [ht, after_iface, hpair]
    rfl
  have hheard : heard cr pb d s (.recvCommand env) t =
      ⟨(announced cr s (.recvCommand env) t).or d.publicKey, d.challenge⟩ := by
    rw [ht, after_running]
    rfl
  have hgreeted : s.phase.greeted = true := by rw [hphase]; rfl
  rw [hheard]
  cases hpaired with
  | unchanged hunchanged =>
    rw [announced_of_written (by rw [hunchanged])]
    exact h.congr (by rw [hunchanged]) hid hsame fun _ => hgreeted
  | unstored hstorage hkey hble =>
    rw [announced_of_written (by rw [hble])]
    refine ⟨by rw [hstorage]; exact h.paired, fun _ => ?_, computes_of_keyless hkey⟩
    intro _ id session hsome hfinds
    rw [EcdhContext.Finds, hasSession, hstorage] at hfinds
    exact h.heard hgreeted hcached id session (hid ▸ hsome) hfinds
  | @stored session hpaired hkey hstored hwrite hwritten =>
    obtain ⟨value, -, hwritten⟩ := hwritten
    refine ⟨hpaired, fun _ _ id session' hsome hfinds => ?_, computes_of_keyless hkey⟩
    obtain rfl : deviceId = id := Option.some.inj ((hdevice.symm.trans hid.symm).trans hsome)
    obtain rfl := Except.ok.inj (hstored.symm.trans hfinds.2)
    rw [announced_of_pair hphase hcmd hwrite hstored hwritten]
    rfl

/-- A challenge: the key that is derived is the one the device computes. -/
theorem agrees_challenge (hcr : cr.Lawful)
    (hdh : ∀ a b, cr.diffieHellman a (cr.publicKey b) = cr.diffieHellman b (cr.publicKey a))
    (h : Agrees cr secret s d) {deviceId : String} (hgreeted : s.phase.greeted = true)
    (hcached : s.iface.ble.cachedPeripheral.isSome = true)
    (hdevice : s.iface.deviceId = some deviceId) {data : Bytes} {i : BleInterface SK}
    (hecdh : i.ecdh = (s.iface.ecdh.loadDeviceKeys cr deviceId data).2)
    (hid : i.deviceId = s.iface.deviceId) :
    WellPaired cr secret i.ecdh.storage ∧ Heard cr i ⟨d.publicKey, some data⟩ ∧
      Computes cr secret i ⟨d.publicKey, some data⟩ := by
  have hstorage : i.ecdh.storage = s.iface.ecdh.storage := by rw [hecdh, loadDeviceKeys_storage]
  have hfinds : ∀ id session, i.ecdh.Finds cr id session ↔ s.iface.ecdh.Finds cr id session :=
    fun id session => by rw [EcdhContext.Finds, EcdhContext.Finds, hasSession, hasSession, hstorage]
  refine ⟨by rw [hstorage]; exact h.paired, fun _ id session hsome hf => ?_, fun key hkey => ?_⟩
  · exact h.heard hgreeted hcached id session (hid ▸ hsome) ((hfinds id session).mp hf)
  rcases loadDeviceKeys_cases cr s.iface.ecdh deviceId data with
      ⟨e, hnone, hload⟩ | ⟨e, session, hf, hpoint, -⟩ | ⟨session, peer, hf, hpoint, hload⟩
  -- a key that was there before has its session, which is found
  · rw [hecdh, hload] at hkey
    obtain ⟨id, session, hsome, hf, -⟩ := h.computes key hkey
    obtain rfl := Option.some.inj (hdevice.symm.trans hsome)
    exact absurd hf (hnone session)
  · have hpeer := (h.paired deviceId session hf.2).peer
    rw [hpoint] at hpeer
    cases hpeer
  · have hwith := h.paired deviceId session hf.2
    obtain rfl := Option.some.inj (hpoint.symm.trans hwith.peer)
    refine ⟨deviceId, session, hid.trans hdevice, (hfinds deviceId session).mpr hf, ?_⟩
    rw [h.heard hgreeted hcached deviceId session hdevice hf, key_of_sessionWith hcr hdh hwith]
    rw [hecdh, hload, activeKey_activate, EcdhSession.keyed_aesKey] at hkey
    exact hkey

/-- Every step that meets the condition keeps the two ends together. -/
theorem agrees_step (hcr : cr.Lawful)
    (hdh : ∀ a b, cr.diffieHellman a (cr.publicKey b) = cr.diffieHellman b (cr.publicKey a))
    (h : Agrees cr secret s d) (hwf : WellFormed s.phase s.iface) (harrives : Arrives cr secret s a)
    (hm : Moves cr pb s a t) : Agrees cr secret t (heard cr pb d s a t) := by
  have hwf' := wellFormed_step hcr hwf hm
  cases hm with
  | putInput | putCommand | notify | notifyLost | endStream =>
    exact agrees_quiet h hwf' rfl rfl rfl id (announced_of_written rfl) rfl
  | @idleCommand env cmd rest hphase hcmd =>
    have hkeys := (idleStep_keeps cr pb hwf hphase cmd rest env).keys
    refine .of_keyless ?_ ?_
      (greeted_idleCommand (s := { s with commands := rest }) hphase cmd env)
    · rw [hkeys.ecdh]
      exact h.paired
    · rw [hkeys.ecdh]
      exact hwf.keyless (by rw [hphase]; rfl)
  | @greet write device hphase =>
    obtain rfl : write = .ok () := harrives
    exact agrees_greet h hwf hphase
  | publish hphase | publishNone hphase =>
    refine agrees_quiet h hwf' rfl rfl rfl (fun _ => ?_) (announced_of_written rfl) rfl
    rw [hphase]
    rfl
  | subscribe hphase | subscribeFails hphase | openStream hphase | openStreamFails hphase =>
    refine agrees_quiet h hwf' rfl rfl rfl (fun _ => ?_) (announced_of_written rfl) rfl
    rw [hphase]
    rfl
  | @command env deviceId cmd rest hphase hcmd =>
    rcases handleCommand_cases hcr pb hwf.linked deviceId cmd env.pair env.send with
        ⟨device, pubKey, rfl, hpair⟩ | ⟨hother, r, values, hsend, -⟩
    · refine agrees_pair hcr h hwf hphase hcmd ?_ (by rw [hpair])
      exact harrives (deviceId, pubKey) (handledPairing_eq hphase hcmd)
    · have hnone : handledPairing s (.recvCommand env) = none := by
        simp only [handledPairing, hphase, hcmd]
        split
        case h_1 device pubKey _ _ heq => exact absurd (List.cons.inj heq).1 (hother _ _)
        case h_2 => rfl
      rw [hsend]
      refine agrees_quiet h (hsend ▸ hwf') (by rw [after_iface]; rfl) (by rw [after_iface]; rfl)
        (by rw [after_iface]; rfl) (fun _ => by rw [hphase]; rfl) ?_ rfl
      unfold announced
      split_ifs
      · dsimp only
        rw [hnone]
      · rfl
  | @recvInput envs deviceId event rest hphase hevent =>
    obtain ⟨values, hinput, -⟩ := handleInputEvent_spec hcr pb hwf.linked event envs
    rw [hinput]
    refine agrees_quiet h (hinput ▸ hwf') rfl rfl rfl (fun _ => by rw [hphase]; rfl) ?_ rfl
    unfold announced
    split_ifs <;> rfl
  | @recvNotification deviceId n rest hphase hn =>
    have hdevice := hwf.device deviceId (by rw [hphase]; rfl)
    have hcached := hwf.cached (by rw [hphase]; rfl)
    have hgreeted : s.phase.greeted = true := by rw [hphase]; rfl
    obtain ⟨hble, hid⟩ := s.iface.handleNotification_keeps cr pb deviceId n
    rw [after_running, announced_of_written (by rw [after_iface, hble])]
    cases hchallenge : challengeOf pb n with
    | none =>
      have hlast : lastChallenge pb d.challenge s .recvNotification = fun _ => d.challenge := by
        funext u
        rw [lastChallenge, handledChallenge_eq hphase hn, hchallenge]
        rfl
      obtain ⟨hecdh, -⟩ := s.iface.handleNotification_other cr deviceId hchallenge
      rw [hlast]
      exact h.congr (by rw [after_iface, hecdh]) (by rw [after_iface, hid])
        (by rw [after_iface, hble]) fun _ => hgreeted
    | some packet =>
      have hlast : lastChallenge pb d.challenge s .recvNotification =
          fun _ => some packet.challengeData := by
        funext u
        rw [lastChallenge, handledChallenge_eq hphase hn, hchallenge]
        rfl
      have hecdh : (s.iface.handleNotification cr pb deviceId n).2.ecdh =
          (s.iface.ecdh.loadDeviceKeys cr deviceId packet.challengeData).2 := by
        rw [s.iface.handleNotification_challenge cr deviceId hchallenge]
        exact (s.iface.onChallenge_spec cr deviceId _ _).1
      obtain ⟨hpaired, hheard, hcomputes⟩ := agrees_challenge hcr hdh h hgreeted hcached hdevice
        hecdh hid
      rw [hlast]
      exact ⟨by rwa [after_iface], fun _ => by rwa [after_iface], by rwa [after_iface]⟩

/-! ## What is written -/

/-- What is written in a step: our public key, as the device has it after the step, or a packet that
it opens with the key it computes. -/
def Readable (cr : Crates SK PK) (pb : Prost) (secret : String → SK) (s : BleTask SK)
    (d d' : Peer) (value : Bytes) : Prop :=
  (∃ publicKey, d'.publicKey = some publicKey ∧ IsAuthPacket cr pb publicKey value) ∨
    ∃ deviceId key payload, s.iface.deviceId = some deviceId ∧
      d.key cr (secret deviceId) = some key ∧ Opens cr pb key payload value

/-- What is sent under the active key is readable. -/
theorem readable_of_data (hcr : cr.Lawful) (h : Agrees cr secret s d) {d' : Peer} {value : Bytes}
    (hvalue : ∃ key, s.iface.ecdh.activeKey = some key ∧
      ∃ payload, IsDataPacket cr pb key payload value) : Readable cr pb secret s d d' value := by
  obtain ⟨key, hkey, payload, hdata⟩ := hvalue
  obtain ⟨deviceId, -, hid, -, hcomputes⟩ := h.computes key hkey
  exact .inr ⟨deviceId, key, payload, hid, hcomputes, opens_of_isDataPacket hcr hdata⟩

theorem readable_step (hcr : cr.Lawful) (h : Agrees cr secret s d)
    (hwf : WellFormed s.phase s.iface) (harrives : Arrives cr secret s a)
    (hm : Moves cr pb s a t) :
    ∃ values, t.iface.ble.written = s.iface.ble.written ++ values ∧
      ∀ v ∈ values, Readable cr pb secret s d (heard cr pb d s a t) v := by
  have hnone : t.iface.ble.written = s.iface.ble.written →
      ∃ values, t.iface.ble.written = s.iface.ble.written ++ values ∧
        ∀ v ∈ values, Readable cr pb secret s d (heard cr pb d s a t) v := fun hsame =>
    ⟨[], by rw [hsame, List.append_nil], nofun⟩
  cases hm with
  | putInput | putCommand | notify | notifyLost | endStream => exact hnone rfl
  | publish | publishNone | subscribe | subscribeFails | openStream | openStreamFails =>
    exact hnone rfl
  | @idleCommand env cmd rest hphase hcmd =>
    exact hnone (idleStep_keeps cr pb hwf hphase cmd rest env).keys.written
  | @greet write device hphase =>
    obtain rfl : write = .ok () := harrives
    obtain ⟨values, hgreet, -, hvalues⟩ := greet_spec cr pb hwf.linked (.ok ())
    rw [hgreet, after_ok]
    refine ⟨values, rfl, fun v hv => ?_⟩
    obtain ⟨deviceId, publicKey, hid, hstored, hauth⟩ := hvalues v hv
    refine .inl ⟨publicKey, ?_, hauth⟩
    have hgrows : s.iface.ble.written.length < (s.iface.wrote values).ble.written.length := by
      rw [wrote_written, List.length_append]
      exact Nat.lt_add_of_pos_right (List.length_pos_of_mem hv)
    rw [heard, announced, if_pos hgrows]
    simp [hid, hstored, Except.toOption]
  | @command env deviceId cmd rest hphase hcmd =>
    rcases handleCommand_cases hcr pb hwf.linked deviceId cmd env.pair env.send with
        ⟨device, pubKey, rfl, hpair⟩ | ⟨-, r, values, hsend, hvalues⟩
    · have hcached := hwf.cached (by rw [hphase]; rfl)
      have hpaired : Paired cr pb secret s.iface deviceId env.pair.write
          (s.iface.handleCommand cr pb deviceId (.pairDevice device pubKey) env.pair
            env.send).2 := by
        rw [hpair]
        exact paired_of_arrives hcr hwf.linked hcached h.paired
          (harrives (deviceId, pubKey) (handledPairing_eq hphase hcmd))
      cases hpaired with
      | unchanged hunchanged => exact hnone (by rw [after_iface, hunchanged])
      | unstored _ _ hble => exact hnone (by rw [after_iface, hble])
      | @stored session _ _ hstored hwrite hwritten =>
        obtain ⟨value, hauth, hwritten⟩ := hwritten
        refine ⟨[value], by rw [after_iface, hwritten], fun v hv => ?_⟩
        refine .inl ⟨session.selfPublicKey, ?_, ?_⟩
        · rw [after_running, announced_of_pair hphase hcmd hwrite
            (by rw [after_iface]; exact hstored) (by rw [after_iface]; exact hwritten)]
          rfl
        · obtain rfl := List.mem_singleton.mp hv
          exact hauth
    · rw [hsend]
      refine ⟨values, by rw [after_iface]; rfl, fun v hv => ?_⟩
      exact readable_of_data hcr h (hvalues v hv)
  | @recvInput envs deviceId event rest hphase hevent =>
    obtain ⟨values, hinput, hvalues⟩ := handleInputEvent_spec hcr pb hwf.linked event envs
    rw [hinput]
    refine ⟨values, rfl, fun v hv => ?_⟩
    obtain ⟨key, hkey, payload, -, hdata⟩ := hvalues v hv
    exact readable_of_data hcr h ⟨key, hkey, payload, hdata⟩
  | @recvNotification deviceId n rest hphase hn =>
    refine hnone ?_
    rw [after_iface, (s.iface.handleNotification_keeps cr pb deviceId n).1]

/-- In every run that starts with sessions which are each with its device, and in which every public
key of ours gets across, is saved and is made for the public key of the device: the stored sessions
stay so, and each value that a step writes is our public key as the device has it then, or a packet
that the device opens with the key it computes from its private key, our public key that it heard
last and its challenge that was handled last. -/
theorem device_reads (hcr : cr.Lawful)
    (hdh : ∀ a b, cr.diffieHellman a (cr.publicKey b) = cr.diffieHellman b (cr.publicKey a))
    {p : BleTask SK × Peer}
    (h : (withPeer cr pb secret).ReachableVia (fun p a => Arrives cr secret p.1 a) p) :
    WellPaired cr secret p.1.iface.ecdh.storage ∧
      ∀ a q, (withPeer cr pb secret).step p a = some q → Arrives cr secret p.1 a →
        ∃ values, q.1.iface.ble.written = p.1.iface.ble.written ++ values ∧
          ∀ v ∈ values, Readable cr pb secret p.1 p.2 q.2 v := by
  have hinv : WellFormed p.1.phase p.1.iface ∧ Agrees cr secret p.1 p.2 := by
    refine h.invariant_withHistory
      (I := fun s d => WellFormed s.phase s.iface ∧ Agrees cr secret s d) ?_ ?_
    · rintro s ⟨storage, hpaired, rfl⟩
      exact ⟨wellFormed_start storage, .of_keyless hpaired rfl rfl⟩
    · rintro s d a t ⟨hwf, hagrees⟩ harrives hst
      exact ⟨wellFormed_step hcr hwf (moves_of_step hst),
        agrees_step hcr hdh hagrees hwf harrives (moves_of_step hst)⟩
  refine ⟨hinv.2.paired, fun a q hst harrives => ?_⟩
  obtain ⟨hst, hq⟩ := Transition.System.withHistory_step_iff.mp hst
  rw [hq]
  exact readable_step hcr hinv.2 hinv.1 harrives (moves_of_step hst)

instance [DecidableEq PK] (deviceId pubKey : String) (env : PairEnv SK) :
    Decidable (PairingArrives cr secret deviceId pubKey env) :=
  -- only the key that was parsed is looked at, not each there is
  show Decidable (∀ bytes ∈ parsePubKey cr pubKey,
    ∀ peer ∈ cr.fromSec1Bytes bytes.toList, _ ∧ _ ∧ _) from Option.decidableForallMem _

instance [DecidableEq PK] : ∀ (s : BleTask SK) (a : BleAction SK), Decidable (Arrives cr secret s a)
  | _, .greet write => inferInstanceAs (Decidable (write = .ok ()))
  | s, .recvCommand env => inferInstanceAs (Decidable (∀ pairing ∈
    handledPairing s (.recvCommand env), PairingArrives cr secret pairing.1 pairing.2 env.pair))
  | _, .putInput _ | _, .putCommand _ | _, .notify _ | _, .endStream | _, .publish
  | _, .subscribe _ | _, .openStream _ | _, .recvInput _ | _, .recvNotification => isTrue trivial

/-- The device with the private key 3 is paired and challenged, and a key report is written that it
reads. -/
theorem device_reads_sample : ∃ (p q : BleTask UInt8 × Peer) (values : List Bytes),
    values.length = 1 ∧ q.1.iface.ble.written = p.1.iface.ble.written ++ values ∧
      ∀ v ∈ values, Readable sampleCrates Sample.prost (fun _ => 3) p.1 p.2 q.2 v := by
  have hrun : ((withPeer sampleCrates Sample.prost fun _ => 3).replay
      (fun p a => Arrives sampleCrates (fun _ => 3) p.1 a) (Sample.startTask, ⟨none, none⟩)
      (Sample.connectRun ++ Sample.pairRun 3 5 ++ Sample.challengeRun [9] ++
        [.putInput Sample.keycode])).bind (fun p =>
      ((withPeer sampleCrates Sample.prost fun _ => 3).step p (.recvInput Sample.sendEnvs)).map
        fun q => (p.1.iface.ble.written.length, q.1.iface.ble.written.length)) = some (1, 2) := by
    decide +kernel
  obtain ⟨p, hp, hstep⟩ := Option.bind_eq_some_iff.mp hrun
  obtain ⟨q, hq, hlengths⟩ := Option.map_eq_some_iff.mp hstep
  obtain ⟨hbefore, hafter⟩ := Prod.mk.inj hlengths
  have hstart : (withPeer sampleCrates Sample.prost fun _ => 3).Init
      (Sample.startTask, ⟨none, none⟩) := ⟨⟨_, wellPaired_empty, rfl⟩, rfl⟩
  have hdh : ∀ a b, sampleCrates.diffieHellman a (sampleCrates.publicKey b) =
      sampleCrates.diffieHellman b (sampleCrates.publicKey a) := fun a b =>
    congrArg (fun x => Sample.pad32 [x]) (UInt8.mul_comm a b)
  obtain ⟨values, hwritten, hvalues⟩ :=
    (device_reads sampleCrates_lawful hdh (.of_replay _ (.init hstart) hp)).2 _ q hq trivial
  refine ⟨p, q, values, ?_, hwritten, hvalues⟩
  rw [hwritten, List.length_append, hbefore] at hafter
  omega

end BleTask

end ToothPaste
