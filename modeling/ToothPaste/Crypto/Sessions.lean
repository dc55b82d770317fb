import ToothPaste.Crates.Sample
import ToothPaste.Crypto.Spec

/-!
# Sessions survive what is done in between

Runs of pairing, loading, saving, clearing and restarting in which every flush completes. Next to
the context a run keeps `Pairings`, the latest successful pairing of each device: what the pairing
was given, what it drew and what it returned. The invariant `Keeps` says that the store has a
session exactly for the devices in `Pairings`, made by the latest pairing, and that the active
session is one of these or one that can never be saved.

* `run_sessions`: after every run, the session functions answer for each device from its latest
  successful pairing.
-/

namespace ToothPaste

/-- A successful pairing: the peer key it was given, the private key it drew and the public key
it returned. -/
structure Pairing (SK : Type) where
  peerKey : ByteArr 33
  privateKey : SK
  publicKey : ByteArr 65
  deriving DecidableEq

/-- The latest successful pairing of each device. -/
abbrev Pairings (SK : Type) := String → Option (Pairing SK)

/-- The steps of a run in which every flush completes, with the random values they draw. -/
inductive KeyOp (SK : Type) where
  | pair (peerKey : ByteArr 33) (deviceId : String) (privateKey : SK) (nonce : ByteArr 12)
  | load (deviceId : String) (challengeData : Bytes)
  | save (nonce : ByteArr 12)
  | clear
  | restart (raw : ByteArr 32) (setSecret : Except String Unit)

namespace KeyOp

open EcdhContext StorageService

variable {SK PK : Type} {cr : Crates SK PK} {masterKey : ByteArr 32} {password : Option String}

/-- One step. A restart opens the store again with the same master key and password. -/
def apply (cr : Crates SK PK) (masterKey : ByteArr 32) (password : Option String)
    (s : EcdhContext SK × Pairings SK) : KeyOp SK → EcdhContext SK × Pairings SK
  | .pair peerKey deviceId privateKey nonce =>
    match pairNewDevice cr s.1 peerKey deviceId privateKey ⟨nonce, .completes⟩ with
    | (.ok publicKey, c) =>
      (c, Function.update s.2 deviceId (some { peerKey, privateKey, publicKey }))
    | (.error _, c) => (c, s.2)
  | .load deviceId challengeData => ((loadDeviceKeys cr s.1 deviceId challengeData).2, s.2)
  | .save nonce => ((saveSession cr s.1 ⟨nonce, .completes⟩).2, s.2)
  | .clear => (s.1.clearSession, s.2)
  | .restart raw setSecret =>
    match (StorageService.new cr (OpenEnv.quiet raw setSecret) s.1.storage.file password
      (some masterKey.toList)).1 with
    | .ok reopened => (EcdhContext.new reopened, s.2)
    | .error _ => s

/-- A run from a store opened on a missing file. -/
def run (cr : Crates SK PK) (masterKey : ByteArr 32) (password : Option String)
    (ops : List (KeyOp SK)) : EcdhContext SK × Pairings SK :=
  ops.foldl (apply cr masterKey password)
    (EcdhContext.new (StorageService.empty cr masterKey password), fun _ => none)

/-! ## The invariant -/

/-- `session` is the session the pairing made. -/
structure Made (cr : Crates SK PK) (p : Pairing SK) (session : EcdhSession SK) : Prop where
  privateKey : session.selfPrivateKey = p.privateKey
  publicKey : session.selfPublicKey = p.publicKey
  peer : ∃ peer, cr.fromSec1Bytes p.peerKey.toList = some peer ∧
    cr.fromSec1Bytes session.peerPublicKey.toList = some peer

theorem Made.persisted {p : Pairing SK} {session : EcdhSession SK} (h : Made cr p session) :
    Made cr p session.persisted :=
  ⟨h.privateKey, h.publicKey, h.peer⟩

theorem Made.keyed {p : Pairing SK} {session : EcdhSession SK} (h : Made cr p session)
    (key : ByteArr 32) : Made cr p (session.keyed cr key) :=
  ⟨h.privateKey, h.publicKey, h.peer⟩

/-- The map holds the session of the device's latest pairing, and none where there is none. -/
def HoldsLatest (cr : Crates SK PK) (m : Contents) (deviceId : String) :
    Option (Pairing SK) → Prop
  | none => m (sessionKey deviceId) = none
  | some p => ∃ session json, session.deviceId = deviceId ∧ Made cr p session ∧
      EcdhSession.fromJson cr json = .ok session ∧ m (sessionKey deviceId) = some json

/-- The invariant of a run. -/
structure Keeps (cr : Crates SK PK) (masterKey : ByteArr 32) (password : Option String)
    (s : EcdhContext SK × Pairings SK) : Prop where
  stored : ∃ m, StoreOp.Simulates cr masterKey password s.1.storage m ∧
    ∀ deviceId, HoldsLatest cr m deviceId (s.2 deviceId)
  -- an active session that is not of the latest pairing is one that AES-GCM refused to store
  active : ∀ session ∈ s.1.activeSession, ∀ json, session.toJson cr = .ok json →
    json.length ≤ aesGcmMaxPlaintext → ∃ p, s.2 session.deviceId = some p ∧ Made cr p session

/-- Storing a session under its device leaves what is held for the other devices alone. -/
theorem HoldsLatest.update {m : Contents} {latest : Pairings SK} {deviceId : String}
    {p : Option (Pairing SK)} {value : Option Bytes}
    (h : ∀ id, HoldsLatest cr m id (latest id))
    (hself : HoldsLatest cr (Function.update m (sessionKey deviceId) value) deviceId p)
    (id : String) :
    HoldsLatest cr (Function.update m (sessionKey deviceId) value) id
      (Function.update latest deviceId p id) := by
  by_cases hid : id = deviceId
  · subst hid
    rwa [Function.update_self]
  · rw [Function.update_of_ne hid]
    have hkey : sessionKey id ≠ sessionKey deviceId := sessionKey_injective.ne hid
    have hold := h id
    cases hp : latest id <;>
      simpa only [hp, HoldsLatest, Function.update_of_ne hkey] using hold

/-- A session that was read back from the map is held. -/
theorem holdsLatest_update_self (hcr : cr.Lawful) {m : Contents} {session : EcdhSession SK}
    {json : Bytes} {p : Pairing SK} (hmade : Made cr p session)
    (hjson : session.toJson cr = .ok json) :
    HoldsLatest cr (Function.update m (sessionKey session.deviceId) (some json))
      session.deviceId (some p) := by
  obtain ⟨json', hto, hfrom⟩ := EcdhSession.toJson_fromJson hcr session
  obtain rfl : json' = json := Except.ok.inj (hto.symm.trans hjson)
  exact ⟨session.persisted, json', rfl, hmade.persisted, hfrom, Function.update_self ..⟩

/-- What the context finds for a device in the invariant: the session of its latest pairing. -/
theorem Keeps.finds (hcr : cr.Lawful) {s : EcdhContext SK × Pairings SK}
    (h : Keeps cr masterKey password s) (deviceId : String) :
    match s.2 deviceId with
    | none => s.1.hasSession deviceId = false
    | some p => ∃ session, session.deviceId = deviceId ∧ Made cr p session ∧
        s.1.Finds cr deviceId session := by
  obtain ⟨m, hsim, hheld⟩ := h.stored
  have hcontains := contains_of_represents hsim.represents (sessionKey deviceId)
  have hget := get_of_represents hcr hsim.represents (sessionKey deviceId)
  have hold := hheld deviceId
  cases hp : s.2 deviceId with
  | none =>
    simp only [hp, HoldsLatest] at hold
    simpa [hasSession, hold] using hcontains
  | some p =>
    simp only [hp, HoldsLatest] at hold
    obtain ⟨session, json, hid, hmade, hfrom, hm⟩ := hold
    refine ⟨session, hid, hmade, ?_, ?_⟩
    · simpa [hasSession, hm] using hcontains
    · simp only [storedSession, hget, hm, hfrom]

/-! ## Steps -/

theorem keeps_pair (hcr : cr.Lawful) {s : EcdhContext SK × Pairings SK}
    (h : Keeps cr masterKey password s) (peerKey : ByteArr 33) (deviceId : String)
    (privateKey : SK) (nonce : ByteArr 12) :
    Keeps cr masterKey password
      (apply cr masterKey password s (.pair peerKey deviceId privateKey nonce)) := by
  obtain ⟨m, hsim, hheld⟩ := h.stored
  rcases pairNewDevice_cases hcr s.1 peerKey deviceId privateKey ⟨nonce, .completes⟩ with
      ⟨e, -, hpair⟩ | ⟨peer, peerPublicKey, publicKey, json, hpeerKey, hpeer, -, hto, -, hpair⟩
  · simpa only [apply, hpair] using h
  · have hsim' := StoreOp.simulates_apply hcr hsim (.set (sessionKey deviceId) json nonce)
    have hmade : Made cr ⟨peerKey, privateKey, publicKey⟩
        (pairedSession deviceId privateKey publicKey peerPublicKey) :=
      ⟨rfl, rfl, peer, hpeerKey, hpeer⟩
    rw [apply, hpair, set_completes hcr]
    by_cases hlen : json.length ≤ aesGcmMaxPlaintext
    · rw [StoreOp.applyMap, if_pos hlen] at hsim'
      rw [if_pos hlen]
      refine ⟨⟨Function.update m (sessionKey deviceId) (some json), hsim', ?_⟩, ?_⟩
      · exact HoldsLatest.update hheld (holdsLatest_update_self hcr hmade hto)
      · rintro session ⟨⟩ - - -
        exact ⟨_, Function.update_self .., hmade⟩
    -- too long to be encrypted: active, but neither stored nor to be stored later
    · rw [StoreOp.applyMap, if_neg hlen] at hsim'
      rw [if_neg hlen]
      refine ⟨⟨m, hsim', hheld⟩, ?_⟩
      rintro session ⟨⟩ json' hjson' hshort
      obtain rfl : json = json' := Except.ok.inj (hto.symm.trans hjson')
      exact absurd hshort hlen

theorem keeps_load (hcr : cr.Lawful) {s : EcdhContext SK × Pairings SK}
    (h : Keeps cr masterKey password s) (deviceId : String) (challengeData : Bytes) :
    Keeps cr masterKey password
      (apply cr masterKey password s (.load deviceId challengeData)) := by
  have hfinds := h.finds hcr deviceId
  refine ⟨?_, ?_⟩
  · simpa only [apply, loadDeviceKeys_storage] using h.stored
  · cases hp : s.2 deviceId with
    | none =>
      simp only [hp] at hfinds
      have hnone : ∀ session, ¬ s.1.Finds cr deviceId session :=
        fun session hf => by simpa [hfinds] using hf.1
      obtain ⟨e, hload⟩ := loadDeviceKeys_of_not_finds hnone challengeData
      simpa only [apply, hload] using h.active
    | some p =>
      simp only [hp] at hfinds
      obtain ⟨session, hid, hmade, hf⟩ := hfinds
      obtain ⟨peer, -, hpeer⟩ := hmade.peer
      have hload := loadDeviceKeys_of_finds hf challengeData
      rw [hpeer] at hload
      rw [apply, hload]
      rintro session' ⟨⟩ - - -
      exact ⟨p, by rw [EcdhSession.keyed_deviceId, hid, hp], hmade.keyed _⟩

theorem keeps_save (hcr : cr.Lawful) {s : EcdhContext SK × Pairings SK}
    (h : Keeps cr masterKey password s) (nonce : ByteArr 12) :
    Keeps cr masterKey password (apply cr masterKey password s (.save nonce)) := by
  obtain ⟨m, hsim, hheld⟩ := h.stored
  cases hactive : s.1.activeSession with
  | none => simpa only [apply, saveSession, hactive] using h
  | some session =>
    obtain ⟨json, hjson, -⟩ := EcdhSession.toJson_fromJson hcr session
    have hsim' := StoreOp.simulates_apply hcr hsim (.set (sessionKey session.deviceId) json nonce)
    rw [apply, saveSession_eq hactive hjson]
    refine ⟨⟨_, hsim', ?_⟩, by simpa only [hactive] using h.active⟩
    by_cases hlen : json.length ≤ aesGcmMaxPlaintext
    · obtain ⟨p, hp, hmade⟩ := h.active session (by rw [hactive]; rfl) json hjson hlen
      -- the device's latest pairing stays the one it was
      have hupdate := HoldsLatest.update hheld (holdsLatest_update_self (m := m) hcr hmade hjson)
      rw [← hp, Function.update_eq_self] at hupdate
      simpa only [StoreOp.applyMap, if_pos hlen] using hupdate
    · simpa only [StoreOp.applyMap, if_neg hlen] using hheld

/-- One step keeps the invariant. -/
theorem keeps_apply (hcr : cr.Lawful) {s : EcdhContext SK × Pairings SK}
    (h : Keeps cr masterKey password s) (op : KeyOp SK) :
    Keeps cr masterKey password (apply cr masterKey password s op) := by
  cases op with
  | pair peerKey deviceId privateKey nonce =>
    exact keeps_pair hcr h peerKey deviceId privateKey nonce
  | load deviceId challengeData => exact keeps_load hcr h deviceId challengeData
  | save nonce => exact keeps_save hcr h nonce
  | clear => exact ⟨h.stored, by rintro session ⟨⟩⟩
  | restart raw setSecret =>
    obtain ⟨m, hsim, hheld⟩ := h.stored
    obtain ⟨reopened, hnew, -, hsim'⟩ := hsim.reopen raw setSecret
    rw [apply, hnew]
    exact ⟨⟨m, hsim', hheld⟩, by rintro session ⟨⟩⟩

/-- Every run keeps the invariant. -/
theorem keeps_run (hcr : cr.Lawful) (ops : List (KeyOp SK)) :
    Keeps cr masterKey password (run cr masterKey password ops) := by
  unfold run
  -- by induction on the operations, from any state that meets the invariant
  suffices ∀ s, Keeps cr masterKey password s →
      Keeps cr masterKey password (ops.foldl (apply cr masterKey password) s) from
    this _ ⟨⟨_, StoreOp.simulates_empty, fun _ => rfl⟩, by rintro session ⟨⟩⟩
  induction ops with
  | nil => exact fun s h => h
  | cons op ops ih => exact fun s h => ih _ (keeps_apply hcr h op)

/-! ## The sessions after a run -/

/-- After every run: a device has a session if and only if some pairing of it succeeded, its
stored public key is the one its latest successful pairing returned, and loading it succeeds,
returns that key and sets the AES key of the challenge, derived from the private key drawn in that
pairing and the peer key given to it. -/
theorem run_sessions (hcr : cr.Lawful) (masterKey : ByteArr 32) (password : Option String)
    (ops : List (KeyOp SK)) (deviceId : String) :
    let c := (run cr masterKey password ops).1
    let latest := (run cr masterKey password ops).2
    (c.hasSession deviceId = true ↔ ∃ p, latest deviceId = some p) ∧
    ∀ p, latest deviceId = some p →
      c.getStoredPublicKey cr deviceId = .ok p.publicKey ∧
      ∃ peer, cr.fromSec1Bytes p.peerKey.toList = some peer ∧
        ∀ challengeData,
          (c.loadDeviceKeys cr deviceId challengeData).1 = .ok p.publicKey ∧
          (c.loadDeviceKeys cr deviceId challengeData).2.activeKey =
            some (cr.hkdfSha256 (if challengeData = [] then none else some challengeData)
              (cr.diffieHellman p.privateKey peer).toList (utf8 "aes-gcm-256")) := by
  intro c latest
  have hkeeps : Keeps cr masterKey password (run cr masterKey password ops) := keeps_run hcr ops
  have hfinds := hkeeps.finds hcr deviceId
  cases hp : latest deviceId with
  | none =>
    simp only [latest] at hp
    simp only [hp] at hfinds
    exact ⟨by simp [c, hfinds], by rintro p ⟨⟩⟩
  | some p =>
    simp only [latest] at hp
    simp only [hp] at hfinds
    obtain ⟨session, -, hmade, hf⟩ := hfinds
    refine ⟨⟨fun _ => ⟨p, rfl⟩, fun _ => hf.1⟩, ?_⟩
    rintro _ ⟨⟩
    obtain ⟨peer, hpeerKey, hpeer⟩ := hmade.peer
    refine ⟨by rw [getStoredPublicKey, hf.2, ← hmade.publicKey]; rfl, peer, hpeerKey, ?_⟩
    intro challengeData
    have hload := loadDeviceKeys_of_finds hf challengeData
    rw [hpeer] at hload
    rw [hload, activeKey_activate, EcdhSession.keyed_aesKey, hmade.publicKey, hmade.privateKey]
    refine ⟨rfl, ?_⟩
    cases challengeData <;> rfl

/-- Two devices are paired with a restart in between, and the other one is loaded and cleared. -/
def sampleOps : List (KeyOp UInt8) :=
  [.pair (Sample.compressed 4) "b2" 9 (List.Vector.replicate 12 1),
    .restart (Sample.pad32 []) (.ok ()),
    .pair (Sample.compressed 3) "a1" 5 (List.Vector.replicate 12 2),
    .load "b2" [1], .save (List.Vector.replicate 12 3), .clear]

/-- The key of the device is derived from its own pairing. -/
theorem run_sessions_sample :
    ((run sampleCrates (Sample.pad32 [1]) none sampleOps).1.loadDeviceKeys sampleCrates
      "a1" [7]).2.activeKey =
      some (sampleCrates.hkdfSha256 (some [7]) (Sample.pad32 [15]).toList
        (utf8 "aes-gcm-256")) := by
  have h := run_sessions sampleCrates_lawful (Sample.pad32 [1]) none sampleOps "a1"
  obtain ⟨-, peer, hpeer, hload⟩ :=
    h.2 ⟨Sample.compressed 3, 5, ⟨Sample.toEncodedPoint 5, rfl⟩⟩ (by decide +kernel)
  obtain rfl : 3 = peer :=
    Option.some.inj ((Sample.fromSec1Bytes_compressed 3).symm.trans hpeer)
  exact (hload [7]).2

end KeyOp

end ToothPaste
