import ToothPaste.Ble.Peer
import ToothPaste.Ble.Stream

/-!
# What the device takes

The device at the other end decodes each value that is written, passes over our public key, and
opens the rest with the key it computes at that time (`Peer.takes`).

* `device_takes`: in every run in which our public keys get across, are saved and are made for the
  key of the device, it takes the payloads that were handed to `encrypt_and_send`, in that order and
  none of them twice: all those whose send returned `Ok`, and of the others no more than were
  written before their send failed.
-/

namespace ToothPaste

open BleInterface

variable {SK PK : Type}

/-- The parts of a packet that the device needs. -/
structure PacketParts where
  packetId : PacketId
  iv : Bytes
  encryptedData : Bytes
  tag : Bytes
  deriving DecidableEq

def DataPacket.parts (packet : DataPacket) : PacketParts :=
  ⟨packet.packetId, packet.iv, packet.encryptedData, packet.tag⟩

/-- The device decodes the packets that are sent: their initialisation vector has 12 bytes and their
tag has 16. -/
def Decodes (pb : Prost) (decode : Bytes → Option PacketParts) : Prop :=
  ∀ packet : DataPacket, packet.iv.length = 12 → packet.tag.length = 16 →
    decode (pb.encodeDataPacket packet) = some packet.parts

/-- The decoder of the sample's packets. -/
def Sample.decodePacket : Bytes → Option PacketParts
  | [] => none
  | id :: rest => some {
      packetId := if id = 0 then .dataPacket else .authPacket
      iv := rest.take 12
      encryptedData := (rest.drop 12).take (rest.length - 28)
      tag := rest.drop (rest.length - 16) }

theorem Sample.decodes_prost : Decodes Sample.prost Sample.decodePacket := by
  intro packet hiv htag
  obtain ⟨id, number, total, slow, iv, len, data, tag⟩ := packet
  dsimp only at hiv htag
  have htake : (iv ++ data ++ tag).take 12 = iv := by
    rw [List.append_assoc, List.take_left' hiv]
  have hdata : ((iv ++ data ++ tag).drop 12).take ((iv ++ data ++ tag).length - 28) = data := by
    rw [List.append_assoc, List.drop_left' hiv, List.take_left']
    simp only [List.length_append]
    omega
  have hdrop : (iv ++ data ++ tag).drop ((iv ++ data ++ tag).length - 16) = tag := by
    rw [List.drop_left']
    simp only [List.length_append]
    omega
  cases id <;> simp only [Sample.decodePacket, Sample.prost, DataPacket.parts, htake, hdata,
    hdrop] <;> rfl

/-- What the device takes out of a value: the encoded payload of a packet that its key opens. -/
def Peer.takes (cr : Crates SK PK) (decode : Bytes → Option PacketParts) (privateKey : SK)
    (d : Peer) (value : Bytes) : Option Bytes :=
  match decode value with
  | none => none
  | some parts =>
    match parts.packetId with
    | .authPacket => none
    | .dataPacket =>
      (tryInto 12 parts.iv).bind fun nonce => (d.key cr privateKey).bind fun key =>
        cr.aesGcmDecrypt key nonce (parts.encryptedData ++ parts.tag)

/-- What the connected device takes out of a value. -/
def BleInterface.takes (cr : Crates SK PK) (decode : Bytes → Option PacketParts)
    (secret : String → SK) (i : BleInterface SK) (d : Peer) (value : Bytes) : Option Bytes :=
  i.deviceId.bind fun deviceId => d.takes cr decode (secret deviceId) value

/-- The encoded payloads that were handed to `encrypt_and_send`. -/
def handed (pb : Prost) (attempted : List (EncryptedData × Bool)) : List Bytes :=
  attempted.map fun x => pb.encodeEncryptedData x.1

/-- Those whose send returned `Ok`. -/
def sentOk (pb : Prost) (attempted : List (EncryptedData × Bool)) : List Bytes :=
  handed pb (attempted.filter Prod.snd)

/-- All the payloads are taken whose send returned `Ok`, and no others but those whose send
failed. -/
structure TakesSent (pb : Prost) (attempted : List (EncryptedData × Bool)) (taken : List Bytes) :
    Prop where
  all : (sentOk pb attempted).Sublist taken
  only : taken.Sublist (handed pb attempted)

variable {cr : Crates SK PK} {pb : Prost} {decode : Bytes → Option PacketParts}
  {secret : String → SK}

theorem takesSent_nil : TakesSent pb [] [] := ⟨List.Sublist.refl _, List.Sublist.refl _⟩

theorem TakesSent.append {attempted attempted' : List (EncryptedData × Bool)}
    {taken taken' : List Bytes} (h : TakesSent pb attempted taken)
    (h' : TakesSent pb attempted' taken') :
    TakesSent pb (attempted ++ attempted') (taken ++ taken') where
  all := by
    rw [sentOk, handed, List.filter_append, List.map_append]
    exact h.all.append h'.all
  only := by
    rw [handed, List.map_append]
    exact h.only.append h'.only

/-! ## Values -/

/-- The device takes nothing out of our public key. -/
theorem takes_of_isAuthPacket (hdecode : Decodes pb decode) {i : BleInterface SK} {d : Peer}
    {publicKey : ByteArr 65} {value : Bytes} (h : IsAuthPacket cr pb publicKey value) :
    i.takes cr decode secret d value = none := by
  have hparts : decode value =
      some (unencryptedPacket (utf8 (cr.base64Encode publicKey.toList))).parts := by
    rw [h]
    exact hdecode _ (List.length_replicate ..) (List.length_replicate ..)
  cases hid : i.deviceId with
  | none => rw [BleInterface.takes, hid, Option.bind_none]
  | some deviceId =>
    rw [BleInterface.takes, hid, Option.bind_some, Peer.takes, hparts]
    rfl

namespace BleTask

variable {s t : BleTask SK} {a : BleAction SK} {d : Peer}

/-- The device takes the payload out of a packet that was made of it. -/
theorem takes_of_sentAs (hcr : cr.Lawful) (hdecode : Decodes pb decode)
    (h : Agrees cr secret s d) {payload : EncryptedData} {value : Bytes}
    (hsent : s.iface.SentAs cr pb payload value) :
    s.iface.takes cr decode secret d value = some (pb.encodeEncryptedData payload) := by
  obtain ⟨nonce, encrypted, hencrypt, rfl⟩ := hsent
  unfold EcdhContext.encryptBytes at hencrypt
  cases hkey : s.iface.ecdh.activeKey with
  | none => simp [hkey] at hencrypt
  | some key =>
    cases henc : cr.aesGcmEncrypt key nonce (pb.encodeEncryptedData payload) with
    | none => simp [hkey, henc] at hencrypt
    | some ciphertext =>
      simp only [hkey, henc, Except.ok.injEq] at hencrypt
      subst hencrypt
      have hlen := hcr.aesGcmEncrypt_length _ _ _ _ henc
      obtain ⟨hiv, htag, hparts⟩ :=
        dataPacketOf_append nonce (show 16 ≤ ciphertext.length by omega)
      obtain ⟨deviceId, -, hid, -, hcomputes⟩ := h.computes key hkey
      have hdecoded := hdecode (dataPacketOf (nonce.toList ++ ciphertext))
        (by rw [hiv]; exact nonce.toList_length) htag
      rw [BleInterface.takes, hid, Option.bind_some, Peer.takes, hdecoded]
      show (tryInto 12 (dataPacketOf (nonce.toList ++ ciphertext)).iv).bind _ = _
      rw [hiv, tryInto_toList, Option.bind_some, hcomputes, Option.bind_some]
      show cr.aesGcmDecrypt key nonce ((dataPacketOf (nonce.toList ++ ciphertext)).encryptedData ++
        (dataPacketOf (nonce.toList ++ ciphertext)).tag) = _
      rw [hparts]
      exact hcr.aesGcmDecrypt_encrypt _ _ _ _ henc

/-- What the device takes out of the packets that were made of payloads. -/
theorem filterMap_takes (hcr : cr.Lawful) (hdecode : Decodes pb decode)
    (h : Agrees cr secret s d) {payloads : List EncryptedData} {values : List Bytes}
    (hsent : List.Forall₂ (s.iface.SentAs cr pb) payloads values) :
    values.filterMap (s.iface.takes cr decode secret d) =
      payloads.map pb.encodeEncryptedData := by
  induction hsent with
  | nil => rfl
  | cons hvalue _ ih =>
    rw [List.filterMap_cons_some (takes_of_sentAs hcr hdecode h hvalue), ih, List.map_cons]

/-- What a step writes. -/
def newValues (s t : BleTask SK) : List Bytes :=
  t.iface.ble.written.drop s.iface.ble.written.length

theorem newValues_of_written {values : List Bytes}
    (h : t.iface.ble.written = s.iface.ble.written ++ values) : newValues s t = values := by
  rw [newValues, h, List.drop_left]

/-- What the device takes of payloads that are sent one after the other: those whose send returned
`Ok`, and the next one if it was written. -/
theorem takesSent_sendPayloads (hcr : cr.Lawful) (hdecode : Decodes pb decode)
    (h : Agrees cr secret s d) (payloads : List EncryptedData) (envs : ℕ → SendEnv)
    (hwritten : t.iface.ble.written =
      (s.iface.sendPayloads cr pb payloads envs).2.ble.written) :
    TakesSent pb (s.iface.attempts cr pb payloads envs)
      ((newValues s t).filterMap (s.iface.takes cr decode secret d)) := by
  obtain ⟨k, values, last, hsends⟩ := sendPayloads_sendsFirst cr pb s.iface payloads envs
  have hok : ∀ sent : List EncryptedData,
      (sent.map fun payload => (payload, true)).filter Prod.snd =
        sent.map fun payload => (payload, true) := fun sent =>
    List.filter_eq_self.mpr fun x hx => by
      obtain ⟨payload, -, rfl⟩ := List.mem_map.mp hx
      rfl
  have hfailed : ∀ unsent : List EncryptedData,
      (unsent.map fun payload => (payload, false)).filter Prod.snd = [] := fun unsent =>
    List.filter_eq_nil_iff.mpr fun x hx => by
      obtain ⟨payload, -, rfl⟩ := List.mem_map.mp hx
      exact Bool.false_ne_true
  have hencoded : ∀ (ok : Bool) (sent : List EncryptedData),
      handed pb (sent.map fun payload => (payload, ok)) = sent.map pb.encodeEncryptedData :=
    fun ok sent => by rw [handed, List.map_map]; rfl
  rw [hsends.wrote, wrote_written] at hwritten
  rw [newValues_of_written hwritten, List.filterMap_append, hsends.attempts,
    filterMap_takes hcr hdecode h hsends.sent]
  refine TakesSent.append ⟨?_, ?_⟩ ⟨?_, ?_⟩
  · rw [sentOk, hok, hencoded]
  · rw [hencoded]
  · rw [sentOk, hfailed]
    exact List.nil_sublist _
  · rw [hencoded]
    rcases hsends.failed with rfl | hlast
    · exact List.nil_sublist _
    · rw [filterMap_takes hcr hdecode h hlast]

/-- A step that hands nothing to `encrypt_and_send`, and writes our public key or nothing. -/
theorem takesSent_of_auth (hdecode : Decodes pb decode) {values : List Bytes}
    (hwritten : t.iface.ble.written = s.iface.ble.written ++ values)
    (hvalues : ∀ v ∈ values, ∃ publicKey, IsAuthPacket cr pb publicKey v) :
    TakesSent pb [] ((newValues s t).filterMap (s.iface.takes cr decode secret d)) := by
  have hnone : values.filterMap (s.iface.takes cr decode secret d) = [] :=
    List.filterMap_eq_nil_iff.mpr fun v hv => by
      obtain ⟨publicKey, hauth⟩ := hvalues v hv
      exact takes_of_isAuthPacket hdecode hauth
  rw [newValues_of_written hwritten, hnone]
  exact takesSent_nil

/-- A step takes what its sends got across. -/
theorem takesSent_step (hcr : cr.Lawful) (hdecode : Decodes pb decode)
    (h : Agrees cr secret s d) (hwf : WellFormed s.phase s.iface) (hm : Moves cr pb s a t) :
    TakesSent pb (attempts cr pb s a)
      ((newValues s t).filterMap (s.iface.takes cr decode secret d)) := by
  have hnone : t.iface.ble.written = s.iface.ble.written →
      TakesSent pb [] ((newValues s t).filterMap (s.iface.takes cr decode secret d)) := fun hsame =>
    have hnil : t.iface.ble.written = s.iface.ble.written ++ [] := by rw [hsame, List.append_nil]
    takesSent_of_auth hdecode hnil nofun
  have hone : ∀ payload env, t.iface.ble.written =
      (s.iface.encryptAndSend cr pb payload env).2.ble.written →
      TakesSent pb (s.iface.attempts cr pb [payload] fun _ => env)
        ((newValues s t).filterMap (s.iface.takes cr decode secret d)) := by
    intro payload env hsame
    rw [← sendPayloads_singleton s.iface payload fun _ => env] at hsame
    exact takesSent_sendPayloads hcr hdecode h [payload] (fun _ => env) hsame
  cases hm with
  | putInput | putCommand | notify | notifyLost | endStream | publish | publishNone | subscribe
  | subscribeFails | openStream | openStreamFails => exact hnone rfl
  | @idleCommand env cmd rest hphase hcmd =>
    have hidle := idleStep_keeps cr pb hwf hphase cmd rest env
    have hattempts : attempts cr pb s (.recvCommand env) =
        s.iface.attempts cr pb (commandPayloads cmd) fun _ => env.send := by
      simp only [attempts, hphase, hcmd]
    rw [hattempts]
    cases cmd with
    | sendKeyboardInput text | sendMouseJiggle enable =>
      exact hone _ env.send (by rw [idleCommand, after_iface]; rfl)
    | _ => exact hnone hidle.keys.written
  | @command env deviceId cmd rest hphase hcmd =>
    simp only [attempts, hphase, hcmd]
    cases cmd with
    | sendKeyboardInput text | sendMouseJiggle enable =>
      exact hone _ env.send (by rw [after_iface, handleCommand, reported_snd]; rfl)
    | pairDevice device pubKey =>
      rcases handlePairDevice_cases hcr pb hwf.linked deviceId pubKey env.pair with
          ⟨-, hpair⟩ | ⟨bytes, r, ecdh, -, -, -, hpair⟩
      · exact hnone (by rw [after_iface, handleCommand, hpair])
      · cases r with
        | error e => exact hnone (by rw [after_iface, handleCommand, hpair])
        | ok ourKey =>
          have hwritten : (s.iface.handleCommand cr pb deviceId (.pairDevice device pubKey) env.pair
              env.send).2.ble.written = s.iface.ble.written ++ s.iface.attempted
                (createUnencryptedPacket pb (cr.base64Encode ourKey.toList)) := by
            rw [handleCommand, hpair]
            rfl
          refine takesSent_of_auth hdecode (by rw [after_iface]; exact hwritten) fun v hv => ?_
          exact ⟨ourKey, mem_attempted hv⟩
    | _ => exact hnone (by rw [after_iface]; rfl)
  | @greet write device hphase =>
    obtain ⟨values, hgreet, -, hvalues⟩ := greet_spec cr pb hwf.linked write
    refine takesSent_of_auth hdecode (by rw [after_iface, hgreet, wrote_written]) fun v hv => ?_
    obtain ⟨-, publicKey, -, -, hauth⟩ := hvalues v hv
    exact ⟨publicKey, hauth⟩
  | @recvInput envs deviceId event rest hphase hevent =>
    simp only [attempts, hphase, hevent]
    exact takesSent_sendPayloads hcr hdecode h (inputPayloads event) envs
      (by rw [after_iface, handleInputEvent, reported_snd])
  | @recvNotification deviceId n rest hphase hn =>
    exact hnone (by rw [after_iface, (s.iface.handleNotification_keeps cr pb deviceId n).1])

/-! ## Runs -/

/-- What the device has heard of and has taken, and the payloads that were handed to
`encrypt_and_send`, each with whether its send returned `Ok`. -/
structure DeviceLog where
  peer : Peer
  taken : List Bytes
  attempted : List (EncryptedData × Bool)

/-- The log after a step. -/
def DeviceLog.after (cr : Crates SK PK) (pb : Prost) (decode : Bytes → Option PacketParts)
    (secret : String → SK) (log : DeviceLog) (s : BleTask SK) (a : BleAction SK)
    (t : BleTask SK) : DeviceLog where
  peer := heard cr pb log.peer s a t
  taken := log.taken ++ (newValues s t).filterMap (s.iface.takes cr decode secret log.peer)
  attempted := log.attempted ++ attempts cr pb s a

/-- The task with its device, started with sessions that are each with its device. -/
def withDevice (cr : Crates SK PK) (pb : Prost) (decode : Bytes → Option PacketParts)
    (secret : String → SK) : Transition.System (BleTask SK × DeviceLog) (BleAction SK) :=
  Transition.System.withHistory
    { bleTask cr pb with
      Init := fun s => ∃ storage, WellPaired cr secret storage ∧ s = BleTask.start storage }
    ⟨⟨none, none⟩, [], []⟩ (DeviceLog.after cr pb decode secret)

/-- In every run that starts with sessions which are each with its device, and in which every public
key of ours gets across, is saved and is made for the public key of the device: what the device has
taken are the encoded payloads of what was handed to `encrypt_and_send`, in that order and each
once. All of those are among them whose send returned `Ok`. -/
theorem device_takes (hcr : cr.Lawful)
    (hdh : ∀ a b, cr.diffieHellman a (cr.publicKey b) = cr.diffieHellman b (cr.publicKey a))
    (hdecode : Decodes pb decode) {p : BleTask SK × DeviceLog}
    (h : (withDevice cr pb decode secret).ReachableVia (fun p a => Arrives cr secret p.1 a) p) :
    (sentOk pb p.2.attempted).Sublist p.2.taken ∧
      p.2.taken.Sublist (handed pb p.2.attempted) := by
  have hinv : (WellFormed p.1.phase p.1.iface ∧ Agrees cr secret p.1 p.2.peer) ∧
      TakesSent pb p.2.attempted p.2.taken := by
    refine h.invariant_withHistory (I := fun s log => (WellFormed s.phase s.iface ∧
      Agrees cr secret s log.peer) ∧ TakesSent pb log.attempted log.taken) ?_ ?_
    · rintro s ⟨storage, hpaired, rfl⟩
      exact ⟨⟨wellFormed_start storage, .of_keyless hpaired rfl rfl⟩, takesSent_nil⟩
    · rintro s log a t ⟨⟨hwf, hagrees⟩, htakes⟩ harrives hst
      have hm := moves_of_step hst
      exact ⟨⟨wellFormed_step hcr hwf hm, agrees_step hcr hdh hagrees hwf harrives hm⟩,
        htakes.append (takesSent_step hcr hdecode hagrees hwf hm)⟩
  exact ⟨hinv.2.all, hinv.2.only⟩

/-- The device with the private key 3 is paired and challenged, and takes the report of a key. -/
theorem device_takes_sample : ∃ p : BleTask UInt8 × DeviceLog,
    (withDevice sampleCrates Sample.prost Sample.decodePacket fun _ => 3).ReachableVia
      (fun p a => Arrives sampleCrates (fun _ => 3) p.1 a) p ∧
    p.2.taken = [[0x80, 0, 0, 0, 0, 0x61, 0, 0]] := by
  have hrun : ((withDevice sampleCrates Sample.prost Sample.decodePacket fun _ => 3).replay
      (fun p a => Arrives sampleCrates (fun _ => 3) p.1 a)
      (Sample.startTask, ⟨⟨none, none⟩, [], []⟩)
      (Sample.connectRun ++ Sample.pairRun 3 5 ++ Sample.challengeRun [9] ++
        Sample.inputRun)).map (fun p => (sentOk Sample.prost p.2.attempted,
          handed Sample.prost p.2.attempted)) =
      some ([[0x80, 0, 0, 0, 0, 0x61, 0, 0]], [[0x80, 0, 0, 0, 0, 0x61, 0, 0]]) := by
    decide +kernel
  obtain ⟨p, hp, hfacts⟩ := Option.map_eq_some_iff.mp hrun
  obtain ⟨hsent, hhanded⟩ := Prod.mk.inj hfacts
  have hstart : (withDevice sampleCrates Sample.prost Sample.decodePacket fun _ => 3).Init
      (Sample.startTask, ⟨⟨none, none⟩, [], []⟩) := ⟨⟨_, wellPaired_empty, rfl⟩, rfl⟩
  have hdh : ∀ a b, sampleCrates.diffieHellman a (sampleCrates.publicKey b) =
      sampleCrates.diffieHellman b (sampleCrates.publicKey a) := fun a b =>
    congrArg (fun x => Sample.pad32 [x]) (UInt8.mul_comm a b)
  have hreach := Transition.System.ReachableVia.of_replay _ (.init hstart) hp
  obtain ⟨hall, honly⟩ := device_takes sampleCrates_lawful hdh Sample.decodes_prost hreach
  rw [hsent] at hall
  rw [hhanded] at honly
  exact ⟨p, hreach, honly.antisymm hall⟩

end BleTask

end ToothPaste
