import ToothPaste.Storage.Service

/-!
# The session keys

`EcdhContext` of `modules/crypto.rs`: the active ECDH session and the sessions persisted in the
store under `session_{device_id}`. Pairing draws a key pair and saves a session; a challenge loads
the session of the connected device and derives the AES key from it. As in the store, what a
function has changed before it returns `Err` stays changed, so that the functions return the
context next to their result.
-/

namespace ToothPaste

/-- `EcdhSession`: the key material of a paired device. `aes_key` and its debug copy are not
serialised. -/
structure EcdhSession (SK : Type) where
  deviceId : String
  selfPrivateKey : SK
  selfPublicKey : ByteArr 65
  peerPublicKey : ByteArr 65
  aesKey : Option (ByteArr 32)
  debugAesKeyBase64 : Option String

/-- `EcdhContext`. -/
structure EcdhContext (SK : Type) where
  /-- Active session for the current device. -/
  activeSession : Option (EcdhSession SK)
  /-- Where sessions are persisted. -/
  storage : StorageService

/-- The random draws and file system outcomes of one pairing or save. -/
structure SaveEnv where
  /-- The nonce the store draws. -/
  nonce : ByteArr 12
  /-- How the store's flush goes. -/
  flush : FlushEnv

/-- The store's key for a device, `format!("session_{}", device_id)`. -/
def sessionKey (deviceId : String) : String := "session_" ++ deviceId

theorem sessionKey_injective : Function.Injective sessionKey := by
  intro a b h
  simpa [sessionKey] using h

section Serialisation

variable {SK PK : Type} (cr : Crates SK PK)

/-- `secret_key_serde::serialize`. -/
def secretKeySerialize (key : SK) : Except String String :=
  match cr.toPkcs8Der key with
  | .error e => .error e
  | .ok der => .ok (cr.base64Encode der)

/-- `secret_key_serde::deserialize`. -/
def secretKeyDeserialize (encoded : String) : Except String SK :=
  match cr.base64Decode encoded with
  | .error e => .error e
  | .ok bytes => cr.fromPkcs8Der bytes

/-- `bytes65_serde::serialize`. -/
def bytes65Serialize (bytes : ByteArr 65) : String := cr.base64Encode bytes.toList

/-- `bytes65_serde::deserialize`. -/
def bytes65Deserialize (encoded : String) : Except String (ByteArr 65) :=
  match cr.base64Decode encoded with
  | .error e => .error e
  | .ok bytes =>
    match tryInto 65 bytes with
    | some bytes => .ok bytes
    | none => .error "expected 65 bytes"

/-- `serde_json::to_vec(session)`. -/
def EcdhSession.toJson (session : EcdhSession SK) : Except String Bytes :=
  match secretKeySerialize cr session.selfPrivateKey with
  | .error e => .error e
  | .ok selfPrivateKey =>
    .ok (cr.recordToJson {
      deviceId := session.deviceId
      selfPrivateKey
      selfPublicKey := bytes65Serialize cr session.selfPublicKey
      peerPublicKey := bytes65Serialize cr session.peerPublicKey })

/-- `serde_json::from_slice::<EcdhSession>`: skipped fields get their defaults. -/
def EcdhSession.fromJson (text : Bytes) : Except String (EcdhSession SK) := do
  let record ← cr.recordFromJson text
  let selfPrivateKey ← secretKeyDeserialize cr record.selfPrivateKey
  let selfPublicKey ← bytes65Deserialize cr record.selfPublicKey
  let peerPublicKey ← bytes65Deserialize cr record.peerPublicKey
  return {
    deviceId := record.deviceId
    selfPrivateKey
    selfPublicKey
    peerPublicKey
    aesKey := none
    debugAesKeyBase64 := none }

end Serialisation

namespace EcdhContext

variable {SK PK : Type} (cr : Crates SK PK)

/-- `EcdhContext::new`. -/
def new (storage : StorageService) : EcdhContext SK where
  activeSession := none
  storage := storage

/-- `EcdhContext::generate_device_keys`, with the private key it draws. -/
def generateDeviceKeys (c : EcdhContext SK) (deviceId : String) (peerPublicKey : ByteArr 65)
    (privateKey : SK) : Except String (ByteArr 65) × EcdhContext SK :=
  match tryInto 65 (cr.toEncodedPoint (cr.publicKey privateKey)) with
  | none => (.error "could not convert slice to array", c)
  | some pubKeyBytes =>
    let session : EcdhSession SK := {
      deviceId
      selfPrivateKey := privateKey
      selfPublicKey := pubKeyBytes
      peerPublicKey
      aesKey := none
      debugAesKeyBase64 := none }
    (.ok pubKeyBytes, { c with activeSession := some session })

/-- `EcdhContext::derive_shared_secret`. -/
def deriveSharedSecret (c : EcdhContext SK) : Except String (ByteArr 32) :=
  match c.activeSession with
  | none => .error "no active session"
  | some session =>
    match cr.fromSec1Bytes session.peerPublicKey.toList with
    | none => .error "invalid peer public key in session"
    | some peerPub => .ok (cr.diffieHellman session.selfPrivateKey peerPub)

/-- `EcdhContext::derive_aes_key`. -/
def deriveAesKey (c : EcdhContext SK) (salt : Option Bytes) :
    Except String Unit × EcdhContext SK :=
  match deriveSharedSecret cr c with
  | .error e => (.error e, c)
  | .ok sharedSecret =>
    let keyBytes := cr.hkdfSha256 salt sharedSecret.toList (utf8 "aes-gcm-256")
    -- the session is looked up once more; `derive_shared_secret` has already found it
    match c.activeSession with
    | none => (.error "no active session", c)
    | some session =>
      (.ok (), { c with
        activeSession := some { session with
          aesKey := some keyBytes
          debugAesKeyBase64 := some (cr.base64Encode keyBytes.toList) } })

/-- The HKDF salt of a challenge: none for an empty one. -/
def challengeSalt (challengeData : Bytes) : Option Bytes :=
  if challengeData.isEmpty then none else some challengeData

/-- The text of `DeviceNotFoundError`. -/
def deviceNotFoundError (deviceId : String) : String :=
  "no persisted session found for device '" ++ deviceId ++ "'"

/-- The session persisted for a device: `storage.get` and `serde_json::from_slice`. -/
def storedSession (storage : StorageService) (deviceId : String) :
    Except String (EcdhSession SK) :=
  match storage.get cr (sessionKey deviceId) with
  | .error e => .error e
  | .ok bytes => EcdhSession.fromJson cr bytes

/-- `EcdhContext::load_device_keys`. The loaded session becomes the active one before the AES key
is derived. -/
def loadDeviceKeys (c : EcdhContext SK) (deviceId : String) (challengeData : Bytes) :
    Except String (ByteArr 65) × EcdhContext SK :=
  if c.storage.contains (sessionKey deviceId) then
    match storedSession cr c.storage deviceId with
    | .error e => (.error e, c)
    | .ok session =>
      match deriveAesKey cr { c with activeSession := some session }
        (challengeSalt challengeData) with
      | (.error e, c) => (.error e, c)
      | (.ok (), c) => (.ok session.selfPublicKey, c)
  else (.error (deviceNotFoundError deviceId), c)

/-- `EcdhContext::save_session`. -/
def saveSession (c : EcdhContext SK) (env : SaveEnv) : Except String Unit × EcdhContext SK :=
  match c.activeSession with
  -- nothing to save is no error
  | none => (.ok (), c)
  | some session =>
    match session.toJson cr with
    | .error e => (.error e, c)
    | .ok bytes =>
      let (result, storage) :=
        c.storage.set cr (sessionKey session.deviceId) bytes env.nonce env.flush
      (result, { c with storage })

/-- `EcdhContext::set_active_device`. -/
def setActiveDevice (c : EcdhContext SK) (deviceId : String) :
    Except String Unit × EcdhContext SK :=
  let (result, c) := loadDeviceKeys cr c deviceId []
  (result.map fun _ => (), c)

/-- `EcdhContext::has_session`. -/
def hasSession (c : EcdhContext SK) (deviceId : String) : Bool :=
  c.storage.contains (sessionKey deviceId)

/-- `EcdhContext::get_stored_public_key`. -/
def getStoredPublicKey (c : EcdhContext SK) (deviceId : String) : Except String (ByteArr 65) :=
  (storedSession cr c.storage deviceId).map fun session => session.selfPublicKey

/-- `EcdhContext::decompress_key`. -/
def decompressKey (compressedBytes : ByteArr 33) : Except String (ByteArr 65) :=
  match cr.fromSec1Bytes compressedBytes.toList with
  | none => .error "compressed key is not a valid P-256 point"
  | some publicKey =>
    match tryInto 65 (cr.toEncodedPoint publicKey) with
    | none => .error "could not convert slice to array"
    | some bytes => .ok bytes

/-- The AES key of the active session. -/
def activeKey (c : EcdhContext SK) : Option (ByteArr 32) :=
  c.activeSession.bind fun session => session.aesKey

/-- `EcdhContext::encrypt_bytes`, with the nonce it draws: `nonce ‖ ciphertext ‖ tag`. -/
def encryptBytes (c : EcdhContext SK) (unencryptedData : Bytes) (nonce : ByteArr 12) :
    Except String Bytes :=
  match c.activeKey with
  | none => .error "no active AES session key"
  | some aesKey =>
    match cr.aesGcmEncrypt aesKey nonce unencryptedData with
    | none => .error "AES-GCM encryption failed"
    | some ciphertext => .ok (nonce.toList ++ ciphertext)

/-- `EcdhContext::decrypt_bytes`. -/
def decryptBytes (c : EcdhContext SK) (ciphertextBytes : Bytes) : Except String Bytes :=
  match c.activeKey with
  | none => .error "no active AES session key"
  | some aesKey =>
    match splitNonce ciphertextBytes with
    | none => .error "ciphertext too short"
    | some (nonce, rest) =>
      match cr.aesGcmDecrypt aesKey nonce rest with
      | none => .error "AES-GCM decryption failed"
      | some data => .ok data

/-- `EcdhContext::pair_new_device`, with the private key it draws. -/
def pairNewDevice (c : EcdhContext SK) (peerKey : ByteArr 33) (deviceId : String)
    (privateKey : SK) (env : SaveEnv) : Except String (ByteArr 65) × EcdhContext SK :=
  match decompressKey cr peerKey with
  | .error e => (.error e, c)
  | .ok decompressedKey =>
    match generateDeviceKeys cr c deviceId decompressedKey privateKey with
    | (.error e, c) => (.error e, c)
    | (.ok selfPublicKey, c) =>
      -- the new session is active whether or not it can be saved
      match saveSession cr c env with
      | (.error e, c) => (.error e, c)
      | (.ok (), c) => (.ok selfPublicKey, c)

/-- `EcdhContext::clear_session`. -/
def clearSession (c : EcdhContext SK) : EcdhContext SK := { c with activeSession := none }

end EcdhContext

end ToothPaste
