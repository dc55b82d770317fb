import ToothPaste.Crates
import ToothPaste.Lib.Base64
import ToothPaste.Lib.JsonObject

/-!
# A concrete instance of the crates

`sampleCrates` is an instance of `Crates` to evaluate closed runs of the service on. Base64 and
the two JSON texts are the real ones. The cipher, the key derivation and the curve are stand-ins
small enough to compute with that behave as the real ones are documented to: a ciphertext has the
plaintext's length and a 16-byte tag, another key's tag is refused, keys depend on the salt and
on the shared secret, a point has a 33-byte and a 65-byte encoding and other strings are no
points. `sampleCrates_lawful` checks the laws.
-/

namespace ToothPaste

namespace Sample

/-- A 32-byte array from its first bytes, padded with zeros. -/
def pad32 (front : Bytes) : ByteArr 32 :=
  ⟨(front ++ List.replicate 32 0).take 32, by simp⟩

/-- The sum of the bytes, modulo 256. -/
def checksum (bytes : Bytes) : UInt8 := bytes.foldl (· + ·) 0

/-- The tag of a key. -/
def tag (key : ByteArr 32) : Bytes := key.toList.take 16

theorem tag_length (key : ByteArr 32) : (tag key).length = 16 := by
  simp [tag]

/-- The plaintext under a one-byte mask. -/
def mask (key : ByteArr 32) (bytes : Bytes) : Bytes := bytes.map (· ^^^ key.toList.headD 0)

theorem mask_mask (key : ByteArr 32) (bytes : Bytes) : mask key (mask key bytes) = bytes := by
  have hbyte : ∀ b, b ^^^ key.toList.headD 0 ^^^ key.toList.headD 0 = b := fun b => by
    rw [UInt8.xor_assoc, UInt8.xor_self, UInt8.xor_zero]
  simp only [mask, List.map_map, Function.comp_def, hbyte, List.map_id']

/-- The ciphertext followed by the tag. -/
def aesGcmEncrypt (key : ByteArr 32) (_nonce : ByteArr 12) (plaintext : Bytes) : Option Bytes :=
  if plaintext.length ≤ aesGcmMaxPlaintext then some (mask key plaintext ++ tag key) else none

/-- The plaintext, if the tag is the key's. -/
def aesGcmDecrypt (key : ByteArr 32) (_nonce : ByteArr 12) (ciphertext : Bytes) : Option Bytes :=
  let cut := ciphertext.length - 16
  if ciphertext.drop cut = tag key then some (mask key (ciphertext.take cut)) else none

/-- The point an encoding names; points are their own x-coordinate, one byte. -/
def fromSec1Bytes (bytes : Bytes) : Option UInt8 :=
  match bytes with
  | 4 :: x :: rest => if rest = List.replicate 63 0 then some x else none
  | 2 :: x :: rest => if rest = List.replicate 31 0 then some x else none
  | _ => none

/-- The uncompressed encoding. -/
def toEncodedPoint (x : UInt8) : Bytes := 4 :: x :: List.replicate 63 0

/-- The compressed encoding. -/
def compressed (x : UInt8) : ByteArr 33 := ⟨2 :: x :: List.replicate 31 0, by simp⟩

theorem fromSec1Bytes_compressed (x : UInt8) :
    fromSec1Bytes (compressed x).toList = some x := rfl

/-- The members of a string map. -/
def membersOf (db : Db) : List (String × String) := db.entries.map fun e => (e.1, e.2)

/-- The string map of its members. -/
def dbOf (members : List (String × String)) : Db :=
  (members.map fun m => (⟨m.1, m.2⟩ : Sigma fun _ : String => String)).toAList

/-- The members of a session object. -/
def membersOfRecord (r : SessionRecord) : List (String × String) :=
  [("device_id", r.deviceId), ("self_private_key", r.selfPrivateKey),
    ("self_public_key", r.selfPublicKey), ("peer_public_key", r.peerPublicKey)]

/-- The session object of its members. -/
def recordOf (members : List (String × String)) : Option SessionRecord := do
  let deviceId ← members.lookup "device_id"
  let selfPrivateKey ← members.lookup "self_private_key"
  let selfPublicKey ← members.lookup "self_public_key"
  let peerPublicKey ← members.lookup "peer_public_key"
  some { deviceId, selfPrivateKey, selfPublicKey, peerPublicKey }

end Sample

open Sample

/-- A concrete instance of the crates. -/
def sampleCrates : Crates UInt8 UInt8 where
  base64Encode := Base64.encodeText
  base64Decode text :=
    match Base64.decodeText text with
    | some bytes => .ok bytes
    | none => .error "Invalid symbol"
  aesGcmEncrypt := aesGcmEncrypt
  aesGcmDecrypt := aesGcmDecrypt
  hkdfSha256 salt ikm info :=
    pad32 [checksum (salt.getD []), checksum ikm, checksum info, if salt.isSome then 1 else 0]
  publicKey sk := sk
  fromSec1Bytes := fromSec1Bytes
  toEncodedPoint := toEncodedPoint
  diffieHellman sk pk := pad32 [sk * pk]
  toPkcs8Der sk := .ok [48, sk]
  fromPkcs8Der der :=
    match der with
    | [48, sk] => .ok sk
    | _ => .error "PKCS#8 ASN.1 error"
  mapToJson db := JsonObject.encode (membersOf db)
  mapFromJson text :=
    match JsonObject.decode text with
    | some members => .ok (dbOf members)
    | none => .error "EOF while parsing"
  recordToJson r := JsonObject.encode (membersOfRecord r)
  recordFromJson text :=
    match (JsonObject.decode text).bind recordOf with
    | some r => .ok r
    | none => .error "missing field"

namespace Sample

theorem aesGcmDecrypt_encrypt {k : ByteArr 32} (n : ByteArr 12) {m c : Bytes}
    (h : aesGcmEncrypt k n m = some c) : aesGcmDecrypt k n c = some m := by
  unfold aesGcmEncrypt at h
  split_ifs at h
  cases h
  have hcut : (mask k m ++ tag k).length - 16 = (mask k m).length := by
    simp [tag_length]
  simp only [aesGcmDecrypt, hcut, List.drop_left, ↓reduceIte, List.take_left, mask_mask]

/-- Another key's tag is refused. -/
theorem aesGcmDecrypt_other {k k' : ByteArr 32} (htag : tag k ≠ tag k') (n : ByteArr 12)
    {m c : Bytes} (h : aesGcmEncrypt k n m = some c) : aesGcmDecrypt k' n c = none := by
  unfold aesGcmEncrypt at h
  split_ifs at h
  cases h
  have hcut : (mask k m ++ tag k).length - 16 = (mask k m).length := by
    simp [tag_length]
  simp only [aesGcmDecrypt, hcut, List.drop_left, htag, ↓reduceIte]

theorem lookup_dbOf_membersOf (db : Db) (key : String) :
    (dbOf (membersOf db)).lookup key = db.lookup key := by
  have hentries : (membersOf db).map (fun m => (⟨m.1, m.2⟩ : Sigma fun _ : String => String)) =
      db.entries := by
    simp [membersOf, Function.comp_def]
  rw [dbOf, hentries, AList.lookup_to_alist]
  rfl

theorem recordOf_membersOfRecord (r : SessionRecord) : recordOf (membersOfRecord r) = some r := by
  simp [recordOf, membersOfRecord, List.lookup_cons]

end Sample

/-- The concrete instance keeps what the crates promise. -/
theorem sampleCrates_lawful : sampleCrates.Lawful where
  base64Decode_encode b := by
    simp [sampleCrates, Base64.decodeText_encodeText]
  aesGcmEncrypt_isSome k n m := by
    by_cases h : m.length ≤ aesGcmMaxPlaintext <;> simp [sampleCrates, Sample.aesGcmEncrypt, h]
  aesGcmDecrypt_encrypt _ n _ _ h := Sample.aesGcmDecrypt_encrypt n h
  aesGcmEncrypt_length k n m c h := by
    simp only [sampleCrates, Sample.aesGcmEncrypt] at h
    split_ifs at h
    cases h
    simp [mask, tag_length]
  toEncodedPoint_length p := by simp [sampleCrates, Sample.toEncodedPoint]
  fromSec1Bytes_toEncodedPoint p := by
    simp [sampleCrates, Sample.fromSec1Bytes, Sample.toEncodedPoint]
  fromPkcs8Der_toPkcs8Der sk := ⟨[48, sk], rfl, rfl⟩
  mapFromJson_toJson db := by
    refine ⟨dbOf (membersOf db), ?_, lookup_dbOf_membersOf db⟩
    simp only [sampleCrates, JsonObject.decode_encode]
  mapFromJson_cut db text hcut hne := by
    refine ⟨"EOF while parsing", ?_⟩
    have hnone := JsonObject.decode_cut hcut hne
    simp only [sampleCrates, hnone]
  recordFromJson_toJson r := by
    simp only [sampleCrates, JsonObject.decode_encode, Option.bind_some,
      recordOf_membersOfRecord]

end ToothPaste
