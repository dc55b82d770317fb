import ToothPaste.Storage.Refinement
import ToothPaste.Crypto.Context

/-!
# What the session functions do

One lemma for each function of `EcdhContext`, so that the proofs about runs cite these and never
unfold the functions.

* `toJson_fromJson`: a session is read back from its JSON without its AES key.
* `loadDeviceKeys_cases`: the three ways a load can end, and what it leaves behind in each.
* `pairNewDevice_cases`: the three ways a pairing can end.
-/

namespace ToothPaste

variable {SK PK : Type} {cr : Crates SK PK}

/-! ## Serialisation -/

namespace EcdhSession

/-- What is left of a session when it is read back: the skipped fields are empty. -/
def persisted (session : EcdhSession SK) : EcdhSession SK :=
  { session with aesKey := none, debugAesKeyBase64 := none }

/-- The session with its AES key derived. -/
def keyed (cr : Crates SK PK) (session : EcdhSession SK) (key : ByteArr 32) : EcdhSession SK :=
  { session with aesKey := some key, debugAesKeyBase64 := some (cr.base64Encode key.toList) }

@[simp]
theorem keyed_deviceId (session : EcdhSession SK) (key : ByteArr 32) :
    (session.keyed cr key).deviceId = session.deviceId := rfl

@[simp]
theorem keyed_aesKey (session : EcdhSession SK) (key : ByteArr 32) :
    (session.keyed cr key).aesKey = some key := rfl

end EcdhSession

/-- The 65-byte arrays of a session decode from their base64. -/
theorem bytes65Deserialize_serialize (hcr : cr.Lawful) (bytes : ByteArr 65) :
    bytes65Deserialize cr (bytes65Serialize cr bytes) = .ok bytes := by
  simp only [bytes65Deserialize, bytes65Serialize, hcr.base64Decode_encode, tryInto_toList]

/-- The private key of a session decodes from the base64 of its PKCS#8. -/
theorem secretKeyDeserialize_serialize (hcr : cr.Lawful) (key : SK) :
    ∃ encoded, secretKeySerialize cr key = .ok encoded ∧
      secretKeyDeserialize cr encoded = .ok key := by
  obtain ⟨der, hto, hfrom⟩ := hcr.fromPkcs8Der_toPkcs8Der key
  refine ⟨cr.base64Encode der, ?_, ?_⟩
  · simp only [secretKeySerialize, hto]
  · simp only [secretKeyDeserialize, hcr.base64Decode_encode, hfrom]

/-- A session is read back from its JSON without its AES key. -/
theorem EcdhSession.toJson_fromJson (hcr : cr.Lawful) (session : EcdhSession SK) :
    ∃ json, session.toJson cr = .ok json ∧
      EcdhSession.fromJson cr json = .ok session.persisted := by
  obtain ⟨encoded, hto, hfrom⟩ := secretKeyDeserialize_serialize hcr session.selfPrivateKey
  -- each field that is written decodes; the two that are skipped come back empty
  refine ⟨_, by rw [EcdhSession.toJson, hto], ?_⟩
  simp only [EcdhSession.fromJson, hcr.recordFromJson_toJson, bind, Except.bind, hfrom,
    bytes65Deserialize_serialize hcr]
  rfl

/-! ## Keys -/

/-- The AES key of a challenge: HKDF-SHA256 of the ECDH secret, salted with the challenge. -/
def challengeKey (cr : Crates SK PK) (privateKey : SK) (peer : PK) (challengeData : Bytes) :
    ByteArr 32 :=
  cr.hkdfSha256 (EcdhContext.challengeSalt challengeData)
    (cr.diffieHellman privateKey peer).toList (utf8 "aes-gcm-256")

namespace EcdhContext

/-- The context with another active session. -/
def activate (c : EcdhContext SK) (session : EcdhSession SK) : EcdhContext SK :=
  { c with activeSession := some session }

@[simp]
theorem activate_activeSession (c : EcdhContext SK) (session : EcdhSession SK) :
    (c.activate session).activeSession = some session := rfl

@[simp]
theorem activate_storage (c : EcdhContext SK) (session : EcdhSession SK) :
    (c.activate session).storage = c.storage := rfl

@[simp]
theorem activeKey_activate (c : EcdhContext SK) (session : EcdhSession SK) :
    (c.activate session).activeKey = session.aesKey := rfl

/-- A point's uncompressed encoding fits the array it is converted to. -/
theorem tryInto_toEncodedPoint (hcr : cr.Lawful) (point : PK) :
    ∃ bytes, tryInto 65 (cr.toEncodedPoint point) = some bytes ∧
      bytes.toList = cr.toEncodedPoint point :=
  exists_tryInto (hcr.toEncodedPoint_length point)

/-- Decompression succeeds exactly on the encodings of points, and gives another encoding of the
same point. -/
theorem decompressKey_cases (hcr : cr.Lawful) (compressed : ByteArr 33) :
    (cr.fromSec1Bytes compressed.toList = none ∧
      decompressKey cr compressed =
        .error "compressed key is not a valid P-256 point") ∨
    ∃ peer bytes, cr.fromSec1Bytes compressed.toList = some peer ∧
      cr.fromSec1Bytes bytes.toList = some peer ∧ decompressKey cr compressed = .ok bytes := by
  cases hpoint : cr.fromSec1Bytes compressed.toList with
  | none => exact .inl ⟨rfl, by simp only [decompressKey, hpoint]⟩
  | some peer =>
    obtain ⟨bytes, htry, hbytes⟩ := tryInto_toEncodedPoint hcr peer
    refine .inr ⟨peer, bytes, rfl, ?_, by simp only [decompressKey, hpoint, htry]⟩
    rw [hbytes, hcr.fromSec1Bytes_toEncodedPoint]

/-- The session a pairing makes. -/
def pairedSession (deviceId : String) (privateKey : SK) (publicKey peerPublicKey : ByteArr 65) :
    EcdhSession SK :=
  ⟨deviceId, privateKey, publicKey, peerPublicKey, none, none⟩

@[simp]
theorem pairedSession_deviceId (deviceId : String) (privateKey : SK)
    (publicKey peerPublicKey : ByteArr 65) :
    (pairedSession deviceId privateKey publicKey peerPublicKey).deviceId = deviceId := rfl

/-- Generating keys always succeeds and replaces the active session by one without an AES key. -/
theorem generateDeviceKeys_eq (hcr : cr.Lawful) (c : EcdhContext SK) (deviceId : String)
    (peerPublicKey : ByteArr 65) (privateKey : SK) :
    ∃ publicKey, publicKey.toList = cr.toEncodedPoint (cr.publicKey privateKey) ∧
      generateDeviceKeys cr c deviceId peerPublicKey privateKey =
        (.ok publicKey,
          c.activate (pairedSession deviceId privateKey publicKey peerPublicKey)) := by
  obtain ⟨publicKey, htry, hbytes⟩ := tryInto_toEncodedPoint hcr (cr.publicKey privateKey)
  exact ⟨publicKey, hbytes, by simp only [generateDeviceKeys, htry]; rfl⟩

/-- The active session gets the key of the salt, unless its peer key is no point. -/
theorem deriveAesKey_eq (cr : Crates SK PK) {c : EcdhContext SK} {session : EcdhSession SK}
    (hactive : c.activeSession = some session) (challengeData : Bytes) :
    deriveAesKey cr c (challengeSalt challengeData) =
      match cr.fromSec1Bytes session.peerPublicKey.toList with
      | none => (.error "invalid peer public key in session", c)
      | some peer => (.ok (), c.activate
          (session.keyed cr (challengeKey cr session.selfPrivateKey peer challengeData))) := by
  cases hpeer : cr.fromSec1Bytes session.peerPublicKey.toList with
  | none => simp only [deriveAesKey, deriveSharedSecret, hactive, hpeer]
  | some peer =>
    simp only [deriveAesKey, deriveSharedSecret, hactive, hpeer]
    rfl

/-! ## Loading -/

/-- Which session a load for `deviceId` finds: one that is stored, decrypts and parses. -/
def Finds (cr : Crates SK PK) (c : EcdhContext SK) (deviceId : String)
    (session : EcdhSession SK) : Prop :=
  c.hasSession deviceId = true ∧ storedSession cr c.storage deviceId = .ok session

/-- A session that was read back has no AES key: the field is not serialised. -/
theorem aesKey_of_finds {c : EcdhContext SK} {deviceId : String} {session : EcdhSession SK}
    (h : c.Finds cr deviceId session) : session.aesKey = none := by
  have hstored := h.2
  unfold storedSession at hstored
  split at hstored
  · cases hstored
  -- the record and three of its fields may fail to decode; what is left has no AES key
  · unfold EcdhSession.fromJson at hstored
    simp only [bind, Except.bind] at hstored
    split at hstored
    · cases hstored
    split at hstored
    · cases hstored
    split at hstored
    · cases hstored
    split at hstored
    · cases hstored
    cases hstored
    rfl

/-- A load that finds a session makes it active, and then derives its AES key unless the peer key
in it is no point. -/
theorem loadDeviceKeys_of_finds {c : EcdhContext SK} {deviceId : String}
    {session : EcdhSession SK} (h : c.Finds cr deviceId session) (challengeData : Bytes) :
    loadDeviceKeys cr c deviceId challengeData =
      match cr.fromSec1Bytes session.peerPublicKey.toList with
      | none => (.error "invalid peer public key in session", c.activate session)
      | some peer => (.ok session.selfPublicKey, c.activate
          (session.keyed cr (challengeKey cr session.selfPrivateKey peer challengeData))) := by
  have hcontains : c.storage.contains (sessionKey deviceId) = true := h.1
  -- the session is active by the time its key is derived
  have hderive := deriveAesKey_eq cr (activate_activeSession c session) challengeData
  rw [activate] at hderive
  rw [loadDeviceKeys, if_pos hcontains, h.2]
  simp only [hderive]
  cases cr.fromSec1Bytes session.peerPublicKey.toList <;> rfl

/-- A load that finds no session changes nothing. -/
theorem loadDeviceKeys_of_not_finds {c : EcdhContext SK} {deviceId : String}
    (h : ∀ session, ¬ c.Finds cr deviceId session) (challengeData : Bytes) :
    ∃ e, loadDeviceKeys cr c deviceId challengeData = (.error e, c) := by
  by_cases hcontains : c.storage.contains (sessionKey deviceId) = true
  · rw [loadDeviceKeys, if_pos hcontains]
    cases hstored : storedSession cr c.storage deviceId with
    | error e => exact ⟨e, rfl⟩
    | ok session => exact absurd ⟨hcontains, hstored⟩ (h session)
  · exact ⟨_, by rw [loadDeviceKeys, if_neg hcontains]⟩

/-- A load ends in one of three ways: no session is found and nothing changes; the session found
has an invalid peer key and is left active without an AES key; the session found becomes active
with the AES key of the challenge. -/
theorem loadDeviceKeys_cases (cr : Crates SK PK) (c : EcdhContext SK) (deviceId : String)
    (challengeData : Bytes) :
    (∃ e, (∀ session, ¬ c.Finds cr deviceId session) ∧
      loadDeviceKeys cr c deviceId challengeData = (.error e, c)) ∨
    (∃ e session, c.Finds cr deviceId session ∧
      cr.fromSec1Bytes session.peerPublicKey.toList = none ∧
      loadDeviceKeys cr c deviceId challengeData = (.error e, c.activate session)) ∨
    ∃ session peer, c.Finds cr deviceId session ∧
      cr.fromSec1Bytes session.peerPublicKey.toList = some peer ∧
      loadDeviceKeys cr c deviceId challengeData =
        (.ok session.selfPublicKey, c.activate
          (session.keyed cr (challengeKey cr session.selfPrivateKey peer challengeData))) := by
  by_cases hfinds : ∃ session, c.Finds cr deviceId session
  · obtain ⟨session, hfinds⟩ := hfinds
    have hload := loadDeviceKeys_of_finds hfinds challengeData
    cases hpeer : cr.fromSec1Bytes session.peerPublicKey.toList with
    | none => exact .inr (.inl ⟨_, session, hfinds, hpeer, by rw [hload, hpeer]⟩)
    | some peer => exact .inr (.inr ⟨session, peer, hfinds, hpeer, by rw [hload, hpeer]⟩)
  · rw [not_exists] at hfinds
    obtain ⟨e, hload⟩ := loadDeviceKeys_of_not_finds hfinds challengeData
    exact .inl ⟨e, hfinds, hload⟩

/-- Loading does not touch the store. -/
@[simp]
theorem loadDeviceKeys_storage (c : EcdhContext SK) (deviceId : String) (challengeData : Bytes) :
    (loadDeviceKeys cr c deviceId challengeData).2.storage = c.storage := by
  rcases loadDeviceKeys_cases cr c deviceId challengeData with
      ⟨e, -, h⟩ | ⟨e, session, -, -, h⟩ | ⟨session, peer, -, -, h⟩ <;> rw [h] <;> rfl

/-! ## Saving and pairing -/

/-- Saving stores the JSON of the active session under the device id in it. -/
theorem saveSession_eq {c : EcdhContext SK} {session : EcdhSession SK} {json : Bytes}
    (hactive : c.activeSession = some session) (hjson : session.toJson cr = .ok json)
    (env : SaveEnv) :
    saveSession cr c env =
      ((c.storage.set cr (sessionKey session.deviceId) json env.nonce env.flush).1,
        { c with storage :=
          (c.storage.set cr (sessionKey session.deviceId) json env.nonce env.flush).2 }) := by
  simp only [saveSession, hactive, hjson]

/-- A pairing with an invalid key changes nothing. Any other makes the new session the active
one and then sets its JSON in the store; it succeeds exactly when the store's `set` does. -/
theorem pairNewDevice_cases (hcr : cr.Lawful) (c : EcdhContext SK) (peerKey : ByteArr 33)
    (deviceId : String) (privateKey : SK) (env : SaveEnv) :
    (∃ e, cr.fromSec1Bytes peerKey.toList = none ∧
      pairNewDevice cr c peerKey deviceId privateKey env = (.error e, c)) ∨
    ∃ peer peerPublicKey publicKey json,
      cr.fromSec1Bytes peerKey.toList = some peer ∧
      cr.fromSec1Bytes peerPublicKey.toList = some peer ∧
      publicKey.toList = cr.toEncodedPoint (cr.publicKey privateKey) ∧
      (pairedSession deviceId privateKey publicKey peerPublicKey).toJson cr = .ok json ∧
      EcdhSession.fromJson cr json =
        .ok (pairedSession deviceId privateKey publicKey peerPublicKey) ∧
      pairNewDevice cr c peerKey deviceId privateKey env =
        ((c.storage.set cr (sessionKey deviceId) json env.nonce env.flush).1.map
            fun _ => publicKey,
          { activeSession := some (pairedSession deviceId privateKey publicKey peerPublicKey)
            storage := (c.storage.set cr (sessionKey deviceId) json env.nonce env.flush).2 }) := by
  rcases decompressKey_cases hcr peerKey with
      ⟨hnone, hdec⟩ | ⟨peer, peerPublicKey, hsome, hpeer, hdec⟩
  · exact .inl ⟨_, hnone, by rw [pairNewDevice, hdec]⟩
  · obtain ⟨publicKey, hpub, hgen⟩ :=
      generateDeviceKeys_eq hcr c deviceId peerPublicKey privateKey
    obtain ⟨json, hto, hfrom⟩ := EcdhSession.toJson_fromJson hcr
      (pairedSession deviceId privateKey publicKey peerPublicKey)
    refine .inr ⟨peer, peerPublicKey, publicKey, json, hsome, hpeer, hpub, hto, hfrom, ?_⟩
    -- the new session is saved under the device id it carries
    have hsave := saveSession_eq
      (c := c.activate (pairedSession deviceId privateKey publicKey peerPublicKey)) rfl hto env
    rw [activate_storage, pairedSession_deviceId] at hsave
    rw [pairNewDevice, hdec]
    simp only [hgen, hsave]
    cases (c.storage.set cr (sessionKey deviceId) json env.nonce env.flush).1 <;> rfl

/-- What a successful pairing returned is what is stored for the device. -/
theorem getStoredPublicKey_of_pair (hcr : cr.Lawful) {c c' : EcdhContext SK}
    {peerKey : ByteArr 33} {deviceId : String} {privateKey : SK} {env : SaveEnv}
    {ourKey : ByteArr 65}
    (h : pairNewDevice cr c peerKey deviceId privateKey env = (.ok ourKey, c')) :
    getStoredPublicKey cr c' deviceId = .ok ourKey := by
  rcases pairNewDevice_cases hcr c peerKey deviceId privateKey env with
      ⟨e, -, hpair⟩ | ⟨_, peerPublicKey, publicKey, json, -, -, -, -, hfrom, hpair⟩
  · simp [hpair] at h
  · obtain ⟨hmap, rfl⟩ := Prod.mk.inj (hpair.symm.trans h)
    cases hset : (c.storage.set cr (sessionKey deviceId) json env.nonce env.flush).1 with
    | error e => simp [hset, Except.map] at hmap
    | ok u =>
      obtain rfl : publicKey = ourKey := by simpa [hset, Except.map] using hmap
      -- `Ok` means that the store's `set` returned `Ok`, so that the session reads back
      have hget := StorageService.get_set_self hcr hset
      simp only [getStoredPublicKey, storedSession, hget, hfrom]
      rfl

/-- A pairing with a point leaves no AES key, whether it succeeds or not. -/
theorem activeKey_of_pair (hcr : cr.Lawful) (c : EcdhContext SK) {peerKey : ByteArr 33}
    {peer : PK} (hpeer : cr.fromSec1Bytes peerKey.toList = some peer) (deviceId : String)
    (privateKey : SK) (env : SaveEnv) :
    (pairNewDevice cr c peerKey deviceId privateKey env).2.activeKey = none := by
  rcases pairNewDevice_cases hcr c peerKey deviceId privateKey env with
      ⟨e, hnone, -⟩ | ⟨_, _, _, _, -, -, -, -, -, hpair⟩
  · rw [hpeer] at hnone; cases hnone
  · rw [hpair]; rfl

/-- Loading ends with the AES key of the session it found, or leaves the key as it was, or leaves
none. -/
theorem activeKey_of_load (cr : Crates SK PK) (c : EcdhContext SK) (deviceId : String)
    (challengeData : Bytes) :
    (∃ ourKey key, (loadDeviceKeys cr c deviceId challengeData).1 = .ok ourKey ∧
      (loadDeviceKeys cr c deviceId challengeData).2.activeKey = some key) ∨
    ∃ e, (loadDeviceKeys cr c deviceId challengeData).1 = .error e ∧
      ((loadDeviceKeys cr c deviceId challengeData).2.activeKey = c.activeKey ∨
        (loadDeviceKeys cr c deviceId challengeData).2.activeKey = none) := by
  rcases loadDeviceKeys_cases cr c deviceId challengeData with
      ⟨e, -, h⟩ | ⟨e, session, hfinds, -, h⟩ | ⟨session, peer, -, -, h⟩
  · exact .inr ⟨e, by rw [h], .inl (by rw [h])⟩
  -- the session that was found is active, and was stored without an AES key
  · refine .inr ⟨e, by rw [h], .inr ?_⟩
    rw [h, activeKey_activate]
    exact aesKey_of_finds hfinds
  · exact .inl ⟨_, _, by rw [h], by rw [h, activeKey_activate, EcdhSession.keyed_aesKey]⟩

end EcdhContext

end ToothPaste
