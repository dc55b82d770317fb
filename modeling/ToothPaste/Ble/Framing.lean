import ToothPaste.Ble.Sample
import ToothPaste.Ble.Spec

/-!
# The frame around an encrypted payload

`encrypt_bytes` returns `nonce ‖ ciphertext ‖ tag`, and `encrypt_and_send` cuts it by offsets it
computes from the length. `dataPacketOf` cuts with total functions; `sliceDataPacket` cuts the way
the source does, where a subtraction below zero or a slice out of range panics. The two agree
exactly on what is long enough for a nonce and a tag (`sliceDataPacket_eq_some_iff`), and what
`encrypt_bytes` returns is (`BleInterface.framing_lossless`).
-/

namespace ToothPaste

/-! ## Checked arithmetic and slices -/

/-- `m - n` of two `usize`, `none` where it overflows. -/
def checkedSub (m n : ℕ) : Option ℕ := if n ≤ m then some (m - n) else none

/-- `xs[lo..hi]`, `none` where the range is not one of `xs`. -/
def slice {α : Type} (xs : List α) (lo hi : ℕ) : Option (List α) :=
  if lo ≤ hi ∧ hi ≤ xs.length then some ((xs.take hi).drop lo) else none

theorem checkedSub_of_le {m n : ℕ} (h : n ≤ m) : checkedSub m n = some (m - n) := if_pos h

theorem slice_of_le {α : Type} {xs : List α} {lo hi : ℕ} (hlo : lo ≤ hi) (hhi : hi ≤ xs.length) :
    slice xs lo hi = some ((xs.take hi).drop lo) := if_pos ⟨hlo, hhi⟩

/-! ## The packet -/

/-- The `DataPacket` that `encrypt_and_send` builds, with every subtraction and slice checked. -/
def sliceDataPacket (encrypted : Bytes) : Option DataPacket := do
  let tagStart ← checkedSub encrypted.length 16
  let iv ← slice encrypted 0 12
  let dataLen ← checkedSub tagStart 12
  let encryptedData ← slice encrypted 12 tagStart
  let tag ← slice encrypted tagStart encrypted.length
  return {
    packetId := .dataPacket
    packetNumber := 1
    totalPackets := 1
    slowMode := true
    iv
    dataLen := asU32 dataLen
    encryptedData
    tag }

/-- The cuts are in range exactly for a nonce and a tag at least, and then they give
`dataPacketOf`. -/
theorem sliceDataPacket_eq_some_iff {encrypted : Bytes} {packet : DataPacket} :
    sliceDataPacket encrypted = some packet ↔
      28 ≤ encrypted.length ∧ packet = dataPacketOf encrypted := by
  by_cases hlen : 28 ≤ encrypted.length
  · have htagStart : checkedSub encrypted.length 16 = some (encrypted.length - 16) :=
      checkedSub_of_le (by omega)
    have hdataLen : checkedSub (encrypted.length - 16) 12 = some (encrypted.length - 16 - 12) :=
      checkedSub_of_le (by omega)
    have hiv : slice encrypted 0 12 = some (encrypted.take 12) :=
      slice_of_le (Nat.zero_le _) (by omega)
    have hdata : slice encrypted 12 (encrypted.length - 16) =
        some ((encrypted.take (encrypted.length - 16)).drop 12) :=
      slice_of_le (by omega) (by omega)
    have htag : slice encrypted (encrypted.length - 16) encrypted.length =
        some ((encrypted.take encrypted.length).drop (encrypted.length - 16)) :=
      slice_of_le (by omega) le_rfl
    have hcuts : sliceDataPacket encrypted = some (dataPacketOf encrypted) := by
      simp [sliceDataPacket, htagStart, hdataLen, hiv, hdata, htag, dataPacketOf]
    rw [hcuts, Option.some.injEq, eq_comm, and_iff_right hlen]
  · refine ⟨fun h => ?_, fun h => absurd h.1 hlen⟩
    -- one of the two subtractions is below zero
    have hbelow : ¬ 12 ≤ encrypted.length - 16 := by omega
    by_cases htag : 16 ≤ encrypted.length
    · cases hiv : slice encrypted 0 12 <;>
        simp [sliceDataPacket, checkedSub, htag, hiv, hbelow] at h
    · simp [sliceDataPacket, checkedSub, htag] at h

/-! ## Round trip -/

section RoundTrip

variable {SK PK : Type} {cr : Crates SK PK}

/-- What `encrypt_bytes` returns under a key: the nonce, and a ciphertext that is 16 bytes longer
than the plaintext and decrypts to it. -/
theorem EcdhContext.encryptBytes_of_key (hcr : cr.Lawful) {c : EcdhContext SK} {key : ByteArr 32}
    (hkey : c.activeKey = some key) {data : Bytes} (hlen : data.length ≤ aesGcmMaxPlaintext)
    (nonce : ByteArr 12) :
    ∃ ciphertext, c.encryptBytes cr data nonce = .ok (nonce.toList ++ ciphertext) ∧
      ciphertext.length = data.length + 16 ∧
      cr.aesGcmDecrypt key nonce ciphertext = some data := by
  obtain ⟨ciphertext, henc⟩ :=
    Option.isSome_iff_exists.mp ((hcr.aesGcmEncrypt_isSome key nonce data).mpr hlen)
  refine ⟨ciphertext, ?_, hcr.aesGcmEncrypt_length _ _ _ _ henc,
    hcr.aesGcmDecrypt_encrypt _ _ _ _ henc⟩
  simp only [EcdhContext.encryptBytes, hkey, henc]

/-- `decrypt_bytes` of a nonce and a ciphertext that decrypts under the active key. -/
theorem EcdhContext.decryptBytes_of_key {c : EcdhContext SK} {key : ByteArr 32}
    (hkey : c.activeKey = some key) {nonce : ByteArr 12} {ciphertext data : Bytes}
    (hdec : cr.aesGcmDecrypt key nonce ciphertext = some data) :
    c.decryptBytes cr (nonce.toList ++ ciphertext) = .ok data := by
  simp only [EcdhContext.decryptBytes, hkey, splitNonce_append, hdec]

/-- Whatever the payload, the key and the nonce: the packet that is sent is cut within range, its
parts have the lengths of a nonce, of the encoded payload and of a tag, `data_len` is the length
of the ciphertext, and the parts together decrypt to the encoded payload under the key. -/
theorem BleInterface.framing_lossless (hcr : cr.Lawful) (pb : Prost) {i : BleInterface SK}
    {key : ByteArr 32} (hkey : i.ecdh.activeKey = some key) (payload : EncryptedData)
    (hlen : (pb.encodeEncryptedData payload).length < 2 ^ 32) (env : SendEnv) :
    ∃ encrypted packet,
      i.ecdh.encryptBytes cr (pb.encodeEncryptedData payload) env.nonce = .ok encrypted ∧
      sliceDataPacket encrypted = some packet ∧
      i.encryptAndSend cr pb payload env =
        ((i.ble.bleSendEncrypted (pb.encodeDataPacket packet) env.write).1,
          { i with ble := (i.ble.bleSendEncrypted (pb.encodeDataPacket packet) env.write).2 }) ∧
      packet.iv.length = 12 ∧ packet.tag.length = 16 ∧
      packet.dataLen = packet.encryptedData.length ∧
      packet.encryptedData.length = (pb.encodeEncryptedData payload).length ∧
      ∀ c : EcdhContext SK, c.activeKey = some key →
        c.decryptBytes cr (packet.iv ++ packet.encryptedData ++ packet.tag) =
          .ok (pb.encodeEncryptedData payload) := by
  have hmax : (pb.encodeEncryptedData payload).length ≤ aesGcmMaxPlaintext := by
    rw [aesGcmMaxPlaintext]
    omega
  obtain ⟨ciphertext, henc, hcipher, hdec⟩ :=
    EcdhContext.encryptBytes_of_key hcr hkey hmax env.nonce
  have hnonce : env.nonce.toList.length = 12 := env.nonce.toList_length
  have hlong : 28 ≤ (env.nonce.toList ++ ciphertext).length := by
    rw [List.length_append]
    omega
  obtain ⟨hiv, htag, hparts⟩ :=
    dataPacketOf_append env.nonce (show 16 ≤ ciphertext.length by omega)
  -- the two parts of the ciphertext have its length together
  have hdata : (dataPacketOf (env.nonce.toList ++ ciphertext)).encryptedData.length =
      (pb.encodeEncryptedData payload).length := by
    have hsum := congrArg List.length hparts
    rw [List.length_append] at hsum
    omega
  have hdataLen : (dataPacketOf (env.nonce.toList ++ ciphertext)).dataLen =
      (pb.encodeEncryptedData payload).length := by
    have hcut : (env.nonce.toList ++ ciphertext).length - 16 - 12 =
        (pb.encodeEncryptedData payload).length := by
      rw [List.length_append]
      omega
    rw [dataPacketOf, hcut, asU32, Nat.mod_eq_of_lt hlen]
  refine ⟨_, dataPacketOf (env.nonce.toList ++ ciphertext), henc,
    sliceDataPacket_eq_some_iff.mpr ⟨hlong, rfl⟩, ?_, ?_, htag, ?_, hdata, fun c hc => ?_⟩
  · simp only [BleInterface.encryptAndSend, henc]
  · rw [hiv, hnonce]
  · rw [hdataLen, hdata]
  · rw [List.append_assoc, hiv, hparts]
    exact EcdhContext.decryptBytes_of_key hc hdec

end RoundTrip

/-- An interface whose active session has an AES key. -/
def Sample.keyedInterface : BleInterface UInt8 :=
  { Sample.startTask.iface with
    ecdh := { Sample.startTask.iface.ecdh with
      activeSession := some {
        deviceId := "a1"
        selfPrivateKey := 5
        selfPublicKey := List.Vector.replicate 65 4
        peerPublicKey := List.Vector.replicate 65 4
        aesKey := some (Sample.pad32 [7])
        debugAesKeyBase64 := none } } }

/-- A key code of two bytes is framed and decrypted. -/
theorem BleInterface.framing_lossless_sample :
    ∃ packet : DataPacket, packet.iv.length = 12 ∧ packet.tag.length = 16 ∧
      packet.encryptedData.length = 2 ∧
      Sample.keyedInterface.ecdh.decryptBytes sampleCrates
        (packet.iv ++ packet.encryptedData ++ packet.tag) = .ok [2, 4] := by
  obtain ⟨-, packet, -, -, -, hiv, htag, -, hdata, hdec⟩ :=
    BleInterface.framing_lossless sampleCrates_lawful Sample.prost (i := Sample.keyedInterface) rfl
      (createKeycodePacket [2, 4]) (by decide) (Sample.sendEnvs 0)
  exact ⟨packet, hiv, htag, hdata, hdec _ rfl⟩

end ToothPaste
