import Mathlib.Data.List.AList
import ToothPaste.Core

/-!
# Third-party crates

The service leaves its primitives to crates that are not part of the repository: `base64`,
`aes-gcm`, `hkdf` with `sha2`, `p256`, and `serde_json`. `Crates` is the record of the functions
it calls, over a type `SK` of P-256 secret keys and a type `PK` of P-256 public keys, and
`Crates.Lawful` states what their documentation promises and the service relies on.

Random values (key pairs, nonces, the master key) are not part of `Crates`: the functions that
draw them take the drawn value as an argument, so that every statement is about all draws.
-/

namespace ToothPaste

/-- `HashMap<String, String>`, as the list of its entries in iteration order. -/
abbrev Db := AList (fun _ : String => String)

/-- The string members of the JSON object an `EcdhSession` is serialised to. -/
structure SessionRecord where
  deviceId : String
  selfPrivateKey : String
  selfPublicKey : String
  peerPublicKey : String
  deriving DecidableEq, Repr

/-- The longest plaintext AES-GCM accepts, `P_MAX` of the `aes-gcm` crate, in bytes. -/
def aesGcmMaxPlaintext : ℕ := 2 ^ 36

/-- The functions the service calls in third-party crates. -/
structure Crates (SK PK : Type) where
  /-- `BASE64.encode`. -/
  base64Encode : Bytes → String
  /-- `BASE64.decode`. -/
  base64Decode : String → Except String Bytes
  /-- `Aes256Gcm::encrypt` under a key and a nonce: the ciphertext followed by the tag, or `none`
  for `aead::Error`. -/
  aesGcmEncrypt : ByteArr 32 → ByteArr 12 → Bytes → Option Bytes
  /-- `Aes256Gcm::decrypt`. -/
  aesGcmDecrypt : ByteArr 32 → ByteArr 12 → Bytes → Option Bytes
  /-- HKDF-SHA256 of an optional salt, the input key material and the info, expanded to 32 bytes.
  The output length is a constant below HKDF's limit, so that `expand` cannot fail. -/
  hkdfSha256 : Option Bytes → Bytes → Bytes → ByteArr 32
  /-- `SecretKey::public_key`. -/
  publicKey : SK → PK
  /-- `PublicKey::from_sec1_bytes`: the point a compressed or uncompressed encoding names. -/
  fromSec1Bytes : Bytes → Option PK
  /-- `to_encoded_point(false)`: the uncompressed encoding. -/
  toEncodedPoint : PK → Bytes
  /-- `p256::ecdh::diffie_hellman`, as the raw bytes of the shared secret. -/
  diffieHellman : SK → PK → ByteArr 32
  /-- `SecretKey::to_pkcs8_der`. -/
  toPkcs8Der : SK → Except String Bytes
  /-- `SecretKey::from_pkcs8_der`. -/
  fromPkcs8Der : Bytes → Except String SK
  /-- `serde_json::to_string` of a string map, as the bytes of the text. -/
  mapToJson : Db → Bytes
  /-- `serde_json::from_str` into a string map, from the bytes of a file; bytes that are not UTF-8
  are refused before parsing. -/
  mapFromJson : Bytes → Except String Db
  /-- `serde_json::to_vec` of the object an `EcdhSession` is serialised to. -/
  recordToJson : SessionRecord → Bytes
  /-- `serde_json::from_slice` into that object. -/
  recordFromJson : Bytes → Except String SessionRecord

/-- What the documentation of the crates promises. -/
structure Crates.Lawful {SK PK : Type} (cr : Crates SK PK) : Prop where
  /-- Base64 decodes what it encodes. -/
  base64Decode_encode : ∀ b, cr.base64Decode (cr.base64Encode b) = .ok b
  /-- AES-GCM refuses a plaintext exactly when it is longer than the cipher's limit. -/
  aesGcmEncrypt_isSome : ∀ k n m,
    (cr.aesGcmEncrypt k n m).isSome = true ↔ m.length ≤ aesGcmMaxPlaintext
  /-- AES-GCM decrypts what it encrypts. -/
  aesGcmDecrypt_encrypt : ∀ k n m c,
    cr.aesGcmEncrypt k n m = some c → cr.aesGcmDecrypt k n c = some m
  /-- The ciphertext has the plaintext's length and is followed by a tag of 16 bytes. -/
  aesGcmEncrypt_length : ∀ k n m c, cr.aesGcmEncrypt k n m = some c → c.length = m.length + 16
  /-- The uncompressed encoding of a point is 65 bytes long. -/
  toEncodedPoint_length : ∀ p, (cr.toEncodedPoint p).length = 65
  /-- The uncompressed encoding of a point names that point. -/
  fromSec1Bytes_toEncodedPoint : ∀ p, cr.fromSec1Bytes (cr.toEncodedPoint p) = some p
  /-- PKCS#8 decodes what it encodes. -/
  fromPkcs8Der_toPkcs8Der : ∀ sk, ∃ der,
    cr.toPkcs8Der sk = .ok der ∧ cr.fromPkcs8Der der = .ok sk
  /-- JSON decodes the string map it encodes, as a map: the order of the entries is not kept. -/
  mapFromJson_toJson : ∀ db, ∃ db',
    cr.mapFromJson (cr.mapToJson db) = .ok db' ∧ ∀ key, db'.lookup key = db.lookup key
  /-- A JSON object cut short is refused: its closing brace is its last byte. -/
  mapFromJson_cut : ∀ db text, text <+: cr.mapToJson db → text ≠ cr.mapToJson db →
    ∃ e, cr.mapFromJson text = .error e
  /-- JSON decodes the session object it encodes. -/
  recordFromJson_toJson : ∀ r, cr.recordFromJson (cr.recordToJson r) = .ok r

end ToothPaste
