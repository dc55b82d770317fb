import ToothPaste.Crates.Sample
import ToothPaste.Crypto.Spec
import ToothPaste.Lib.Transition

/-!
# What an entry is bound to

`set` seals a value without its key: there is no associated data, and loading a session compares no
device ids. Here are the runs of a store under one cipher key in which the database file may be
edited, by someone who does not hold the key, whenever the store is closed.

An edit leaves under a name what it likes. Of what opens under the store's key it can only leave
what a `set` has sealed, and it is up to it for which key that was: `stands key key'` says that it
may leave under `key` what was sealed for `key'`.

* `get_of_stands`: what is read under a key was passed to `set` for a key whose entries may stand
  under it, and a session that is loaded is one that was stored under such a key.
* `swapped_sessions`: two entries change places, and the session of one device is loaded for the
  other.
-/

namespace ToothPaste

open StorageService

variable {SK PK : Type}

/-! ## Runs with edits -/

/-- A store that is closed or open. -/
inductive StoreState where
  | closed (file : Option Bytes)
  | opened (s : StorageService)

/-- The steps: the calls of an open store, with what they draw and how their flush goes, and the
opening of a closed one. -/
inductive StoreAction where
  | set (key : String) (value : Bytes) (nonce : ByteArr 12) (env : FlushEnv)
  | delete (key : String) (env : FlushEnv)
  | close
  /-- Someone else writes the file. -/
  | edit (content : Option Bytes)
  | reopen (env : OpenEnv)

/-- A value that was sealed: the key it was set for, and the blob it went into. -/
structure Sealed where
  key : String
  value : Bytes
  blob : Bytes
  deriving DecidableEq

/-- The blob of an entry and the value it opens to, if it does. -/
def openEntry (cr : Crates SK PK) (cipher : ByteArr 32) (entry : String) :
    Option (Bytes × Bytes) :=
  match cr.base64Decode entry with
  | .error _ => none
  | .ok blob =>
    match splitNonce blob with
    | none => none
    | some (nonce, ciphertext) => (cr.aesGcmDecrypt cipher nonce ciphertext).map (blob, ·)

/-- Every entry of the map that opens holds the blob of a value that was sealed for a key whose
entries may stand under its own. -/
def SealedIn (cr : Crates SK PK) (cipher : ByteArr 32) (stands : String → String → Prop)
    (history : List Sealed) (db : Db) : Prop :=
  ∀ key entry, db.lookup key = some entry → ∀ x ∈ openEntry cr cipher entry,
    ∃ y ∈ history, stands key y.key ∧ y.blob = x.1

/-- The same of the map in a file, if one loads. -/
def SealedInFile (cr : Crates SK PK) (cipher : ByteArr 32) (stands : String → String → Prop)
    (history : List Sealed) (file : Option Bytes) : Prop :=
  ∀ db, loadDb cr none file = .ok db → SealedIn cr cipher stands history db

section Runs

variable (cr : Crates SK PK) (masterKey : ByteArr 32) (password : Option String)

/-- One step. -/
def StoreState.step : StoreState → StoreAction → Option StoreState
  | .opened s, .set key value nonce env => some (.opened (s.set cr key value nonce env).2)
  | .opened s, .delete key env => some (.opened (s.delete cr key env).2)
  | .opened s, .close => some (.closed s.file)
  | .closed _, .edit content => some (.closed content)
  | .closed file, .reopen env =>
    match env.lookupFault with
    | none => some (match (StorageService.new cr env file password (some masterKey.toList)).1 with
      | .ok s => .opened s
      | .error _ => .closed file)
    -- the keyring's key is replaced: another store, of which this file is the first one
    | some _ => none
  | _, _ => none

/-- The runs of a store under one key, from a file of which nothing opens under it. -/
def storeRuns : Transition.System StoreState StoreAction where
  Init st := ∃ file, st = .closed file ∧
    SealedInFile cr (cipherKey cr masterKey password) (fun _ _ => True) [] file
  step := StoreState.step cr masterKey password

/-- The value that a step seals, if it does. -/
def sealedBy : StoreState → StoreAction → Option Sealed
  | .opened s, .set key value nonce _ =>
    (cr.aesGcmEncrypt s.cipher nonce value).map fun ciphertext =>
      ⟨key, value, nonce.toList ++ ciphertext⟩
  | _, _ => none

/-- The runs with what was sealed so far. -/
def withSealed : Transition.System (StoreState × List Sealed) StoreAction :=
  (storeRuns cr masterKey password).withHistory [] fun history st a _ =>
    history ++ (sealedBy cr st a).toList

/-- The condition on an edit, made without the key: what it leaves and opens was sealed before, for
a key whose entries may stand where it left it. -/
def Unforged (stands : String → String → Prop) (p : StoreState × List Sealed) : StoreAction → Prop
  | .edit content => SealedInFile cr (cipherKey cr masterKey password) stands p.2 content
  | _ => True

end Runs

variable {cr : Crates SK PK} {masterKey : ByteArr 32} {password : Option String}
  {stands : String → String → Prop} {history : List Sealed}

/-! ## Entries -/

/-- `get` looks an entry up and opens it. -/
theorem get_eq_ok_iff {s : StorageService} {key : String} {value : Bytes} :
    s.get cr key = .ok value ↔ ∃ entry blob, s.db.lookup key = some entry ∧
      openEntry cr s.cipher entry = some (blob, value) := by
  unfold StorageService.get openEntry
  cases s.db.lookup key with
  | none => simp
  | some entry =>
    cases hdecode : cr.base64Decode entry with
    | error e => simp [hdecode]
    | ok blob =>
      cases hsplit : splitNonce blob with
      | none => simp [hdecode, hsplit]
      | some parts =>
        cases hdecrypt : cr.aesGcmDecrypt s.cipher parts.1 parts.2 <;>
          simp [hdecode, hsplit, hdecrypt]

/-- A blob opens to the value that was sealed in it. -/
theorem openEntry_sealed (hcr : cr.Lawful) {cipher : ByteArr 32} {nonce : ByteArr 12}
    {value ciphertext : Bytes} (henc : cr.aesGcmEncrypt cipher nonce value = some ciphertext)
    {entry : String} {x : Bytes × Bytes} (hopen : openEntry cr cipher entry = some x)
    (hblob : nonce.toList ++ ciphertext = x.1) : x.2 = value := by
  unfold openEntry at hopen
  cases hdecode : cr.base64Decode entry with
  | error e => simp [hdecode] at hopen
  | ok blob =>
    cases hsplit : splitNonce blob with
    | none => simp [hdecode, hsplit] at hopen
    | some parts =>
      simp only [hdecode, hsplit] at hopen
      obtain ⟨opened, hdecrypt, rfl⟩ := Option.map_eq_some_iff.mp hopen
      -- the blob is cut where it was put together
      obtain rfl : nonce.toList ++ ciphertext = blob := hblob
      obtain rfl := Option.some.inj (hsplit.symm.trans (splitNonce_append nonce ciphertext))
      exact Option.some.inj (hdecrypt.symm.trans (hcr.aesGcmDecrypt_encrypt _ _ _ _ henc))

theorem SealedIn.mono {cipher : ByteArr 32} {db : Db} (h : SealedIn cr cipher stands history db)
    (later : List Sealed) : SealedIn cr cipher stands (history ++ later) db := by
  intro key entry hlookup x hopen
  obtain ⟨y, hy, hstands, hblob⟩ := h key entry hlookup x hopen
  exact ⟨y, List.mem_append_left _ hy, hstands, hblob⟩

theorem SealedIn.congr {cipher : ByteArr 32} {db db' : Db}
    (h : SealedIn cr cipher stands history db) (hlookup : ∀ key, db'.lookup key = db.lookup key) :
    SealedIn cr cipher stands history db' :=
  fun key entry hentry => h key entry (hlookup key ▸ hentry)

/-- Erasing an entry leaves the others. -/
theorem SealedIn.erase {cipher : ByteArr 32} {db : Db} (h : SealedIn cr cipher stands history db)
    (key : String) : SealedIn cr cipher stands history (db.erase key) := by
  intro key' entry hlookup
  by_cases hkey : key' = key
  · subst hkey
    rw [AList.lookup_erase] at hlookup
    cases hlookup
  · rw [AList.lookup_erase_ne hkey] at hlookup
    exact h key' entry hlookup

/-- The entry that `set` inserts holds what it seals. -/
theorem SealedIn.insert (hcr : cr.Lawful) (hstands : ∀ key, stands key key) {cipher : ByteArr 32}
    {db : Db} (h : SealedIn cr cipher stands history db) (key : String) (value blob : Bytes) :
    SealedIn cr cipher stands (history ++ [⟨key, value, blob⟩])
      (db.insert key (cr.base64Encode blob)) := by
  intro key' entry hlookup x hopen
  by_cases hkey : key' = key
  · subst hkey
    rw [AList.lookup_insert] at hlookup
    obtain rfl := Option.some.inj hlookup
    refine ⟨⟨key', value, blob⟩, List.mem_append_right _ (List.mem_singleton_self _),
      hstands key', ?_⟩
    rw [openEntry, hcr.base64Decode_encode] at hopen
    cases hsplit : splitNonce blob with
    | none => simp [hsplit] at hopen
    | some parts =>
      simp only [hsplit] at hopen
      obtain ⟨opened, -, rfl⟩ := Option.map_eq_some_iff.mp hopen
      rfl
  · rw [AList.lookup_insert_ne hkey] at hlookup
    exact h.mono _ key' entry hlookup x hopen

/-- A flush, however it ends, leaves a file with entries of the map, if it loads. -/
theorem sealedInFile_flush (hcr : cr.Lawful) {cipher : ByteArr 32} {s : StorageService}
    (hdb : SealedIn cr cipher stands history s.db)
    (hfile : SealedInFile cr cipher stands history s.file) (env : FlushEnv) :
    SealedInFile cr cipher stands history (s.flush cr env).2.file := by
  rcases flush_file cr s env with hsame | ⟨text, htext, hprefix⟩
  · rwa [hsame]
  · rw [htext]
    intro db hload
    by_cases hfull : text = cr.mapToJson s.db
    · obtain ⟨db', hjson, hlookup⟩ := hcr.mapFromJson_toJson s.db
      obtain rfl := Except.ok.inj (hjson.symm.trans (hfull ▸ hload))
      exact hdb.congr hlookup
    -- a text cut short does not load
    · obtain ⟨e, hcut⟩ := hcr.mapFromJson_cut s.db text hprefix hfull
      cases hcut.symm.trans hload

/-! ## Steps -/

/-- What holds along a run: everything in the history was sealed under the store's key, and every
entry in the file and in memory that opens is from the history. -/
structure BindingInv (cr : Crates SK PK) (masterKey : ByteArr 32) (password : Option String)
    (stands : String → String → Prop) (st : StoreState) (history : List Sealed) : Prop where
  key : ∀ y ∈ history, ∃ nonce ciphertext,
    cr.aesGcmEncrypt (cipherKey cr masterKey password) nonce y.value = some ciphertext ∧
      y.blob = nonce.toList ++ ciphertext
  state : match st with
    | .closed file => SealedInFile cr (cipherKey cr masterKey password) stands history file
    | .opened s => s.cipher = cipherKey cr masterKey password ∧
      SealedIn cr s.cipher stands history s.db ∧ SealedInFile cr s.cipher stands history s.file

/-- An opening that returns a store has loaded the file, with the store's key. -/
theorem opened_of_reopen {env : OpenEnv} (hlookup : env.lookupFault = none) {file : Option Bytes}
    {s : StorageService}
    (hnew : (StorageService.new cr env file password (some masterKey.toList)).1 = .ok s) :
    s.cipher = cipherKey cr masterKey password ∧ s.file = file ∧
      loadDb cr none file = .ok s.db := by
  cases hentry : env.entryNew with
  | error e => simp [StorageService.new, hentry] at hnew
  | ok u =>
    rw [new_of_lookup env hentry hlookup] at hnew
    cases hload : loadDb cr env.readError file with
    | error e => simp [hload] at hnew
    | ok db =>
      simp only [hload, Except.ok.injEq] at hnew
      subst hnew
      refine ⟨rfl, rfl, ?_⟩
      cases file with
      | none => exact hload
      | some text =>
        unfold loadDb at hload ⊢
        cases hread : env.readError with
        | none => simpa only [hread] using hload
        | some e => simp [hread] at hload

theorem bindingInv_set (hcr : cr.Lawful) (hstands : ∀ key, stands key key) {s : StorageService}
    (h : BindingInv cr masterKey password stands (.opened s) history) (key : String)
    (value : Bytes) (nonce : ByteArr 12) (env : FlushEnv) :
    BindingInv cr masterKey password stands (.opened (s.set cr key value nonce env).2)
      (history ++ (sealedBy cr (.opened s) (.set key value nonce env)).toList) := by
  obtain ⟨hcipher, hdb, hfile⟩ := h.state
  cases henc : cr.aesGcmEncrypt s.cipher nonce value with
  | none =>
    have hseal : sealEntry cr s.cipher nonce value = none := by rw [sealEntry, henc]; rfl
    rw [sealedBy, henc, set_of_not_sealed hseal, Option.map_none, Option.toList_none,
      List.append_nil]
    exact h
  | some ciphertext =>
    have hseal : sealEntry cr s.cipher nonce value =
        some (cr.base64Encode (nonce.toList ++ ciphertext)) := by rw [sealEntry, henc]; rfl
    rw [sealedBy, henc, set_of_sealed hseal, Option.map_some, Option.toList_some]
    have hinsert := hdb.insert hcr hstands key value (nonce.toList ++ ciphertext)
    refine ⟨fun y hy => ?_, (flush_cipher _ env).trans hcipher, ?_, ?_⟩
    · rcases List.mem_append.mp hy with hy | hy
      · exact h.key y hy
      · obtain rfl := List.mem_singleton.mp hy
        exact ⟨nonce, ciphertext, hcipher ▸ henc, rfl⟩
    · rw [flush_db, flush_cipher]
      exact hinsert
    · rw [flush_cipher]
      have hold := fun db hload => (hfile db hload).mono [⟨key, value, nonce.toList ++ ciphertext⟩]
      exact sealedInFile_flush (s := { s with db := s.db.insert key _ }) hcr hinsert hold env

theorem bindingInv_delete (hcr : cr.Lawful) {s : StorageService}
    (h : BindingInv cr masterKey password stands (.opened s) history) (key : String)
    (env : FlushEnv) :
    BindingInv cr masterKey password stands (.opened (s.delete cr key env).2) history := by
  obtain ⟨hcipher, hdb, hfile⟩ := h.state
  refine ⟨h.key, (flush_cipher _ env).trans hcipher, ?_, ?_⟩
  · rw [StorageService.delete, flush_db, flush_cipher]
    exact hdb.erase key
  · rw [StorageService.delete, flush_cipher]
    exact sealedInFile_flush (s := { s with db := s.db.erase key }) hcr (hdb.erase key) hfile env

theorem bindingInv_reopen {file : Option Bytes} {env : OpenEnv} {t : StoreState}
    (h : BindingInv cr masterKey password stands (.closed file) history)
    (hst : StoreState.step cr masterKey password (.closed file) (.reopen env) = some t) :
    BindingInv cr masterKey password stands t history := by
  cases hlookup : env.lookupFault with
  | some e => simp [StoreState.step, hlookup] at hst
  | none =>
    simp only [StoreState.step, hlookup, Option.some.injEq] at hst
    cases hnew : (StorageService.new cr env file password (some masterKey.toList)).1 with
    | error e =>
      rw [hnew] at hst
      exact hst ▸ h
    | ok s =>
      rw [hnew] at hst
      subst hst
      obtain ⟨hcipher, rfl, hload⟩ := opened_of_reopen hlookup hnew
      exact ⟨h.key, hcipher, hcipher ▸ h.state s.db hload, hcipher ▸ h.state⟩

theorem bindingInv_step (hcr : cr.Lawful) (hstands : ∀ key, stands key key) {st t : StoreState}
    {a : StoreAction} (h : BindingInv cr masterKey password stands st history)
    (hunforged : Unforged cr masterKey password stands (st, history) a)
    (hst : (storeRuns cr masterKey password).step st a = some t) :
    BindingInv cr masterKey password stands t (history ++ (sealedBy cr st a).toList) := by
  have hquiet : history ++ [] = history := List.append_nil _
  cases st with
  | opened s =>
    cases a with
    | set key value nonce env =>
      obtain rfl := Option.some.inj hst
      exact bindingInv_set hcr hstands h key value nonce env
    | delete key env =>
      obtain rfl := Option.some.inj hst
      change BindingInv cr masterKey password stands _ (history ++ [])
      exact hquiet.symm ▸ bindingInv_delete hcr h key env
    | close =>
      obtain rfl := Option.some.inj hst
      change BindingInv cr masterKey password stands _ (history ++ [])
      obtain ⟨hcipher, -, hfile⟩ := h.state
      exact hquiet.symm ▸ ⟨h.key, hcipher ▸ hfile⟩
    | edit | reopen => cases hst
  | closed file =>
    cases a with
    | edit content =>
      obtain rfl := Option.some.inj hst
      change BindingInv cr masterKey password stands _ (history ++ [])
      exact hquiet.symm ▸ ⟨h.key, hunforged⟩
    | reopen env =>
      change BindingInv cr masterKey password stands t (history ++ [])
      exact hquiet.symm ▸ bindingInv_reopen h hst
    | set | delete | close => cases hst

theorem bindingInv_of_reachable (hcr : cr.Lawful) (hstands : ∀ key, stands key key)
    {p : StoreState × List Sealed}
    (h : (withSealed cr masterKey password).ReachableVia
      (Unforged cr masterKey password stands) p) :
    BindingInv cr masterKey password stands p.1 p.2 := by
  refine h.invariant_withHistory ?_ fun st history a t hs hunforged hst =>
    bindingInv_step hcr hstands hs hunforged hst
  rintro _ ⟨file, rfl, hfile⟩
  refine ⟨nofun, fun db hload key entry hlookup x hopen => ?_⟩
  obtain ⟨y, hy, -⟩ := hfile db hload key entry hlookup x hopen
  cases hy

/-- What is read under a key was sealed for a key whose entries may stand under it. -/
theorem sealed_of_get (hcr : cr.Lawful) {s : StorageService}
    (h : BindingInv cr masterKey password stands (.opened s) history) {key : String}
    {value : Bytes} (hget : s.get cr key = .ok value) :
    ∃ y ∈ history, stands key y.key ∧ y.value = value := by
  obtain ⟨hcipher, hdb, -⟩ := h.state
  obtain ⟨entry, blob, hlookup, hopen⟩ := get_eq_ok_iff.mp hget
  obtain ⟨y, hy, hstand, hblob⟩ := hdb key entry hlookup _ hopen
  obtain ⟨nonce, ciphertext, henc, hsealed⟩ := h.key y hy
  exact ⟨y, hy, hstand, (openEntry_sealed hcr (hcipher ▸ henc) hopen (hsealed ▸ hblob)).symm⟩

/-! ## Sessions -/

/-- What was set under the key of a device is a session of that device. -/
def SavedSessions (cr : Crates SK PK) (history : List Sealed) : Prop :=
  ∀ y ∈ history, ∀ deviceId, y.key = sessionKey deviceId →
    ∀ session : EcdhSession SK, EcdhSession.fromJson cr y.value = .ok session →
      session.deviceId = deviceId

/-- `save_session` sets a session under the key of its own device. -/
theorem savedSessions_save (hcr : cr.Lawful) (h : SavedSessions cr history)
    (session : EcdhSession SK) {json : Bytes} (hjson : session.toJson cr = .ok json)
    (blob : Bytes) :
    SavedSessions cr (history ++ [⟨sessionKey session.deviceId, json, blob⟩]) := by
  intro y hy deviceId hkey read hread
  rcases List.mem_append.mp hy with hy | hy
  · exact h y hy deviceId hkey read hread
  · obtain rfl := List.mem_singleton.mp hy
    obtain ⟨json', hto, hfrom⟩ := EcdhSession.toJson_fromJson hcr session
    obtain rfl := Except.ok.inj (hto.symm.trans hjson)
    obtain rfl := Except.ok.inj (hfrom.symm.trans hread)
    exact sessionKey_injective hkey

/-- In every run of the store under one key, with any `set` and `delete`, whatever becomes of their
flushes, and with any edits of the file that leave under a key only what does not open and what was
sealed for a key whose entries may stand under it: what `get` returns for a key was passed to an
earlier `set` for a key whose entries may stand under it. A session that `load_device_keys` loads
is one that an earlier `set` for such a key was passed, with its AES key; so it is of the device it
was loaded for if nothing else may stand under the key of that device, and sessions are set under
the keys of their devices. -/
theorem get_of_stands (hcr : cr.Lawful) (hstands : ∀ key, stands key key)
    {p : StoreState × List Sealed}
    (h : (withSealed cr masterKey password).ReachableVia
      (Unforged cr masterKey password stands) p) {s : StorageService} (hs : p.1 = .opened s) :
    (∀ key value, s.get cr key = .ok value → ∃ y ∈ p.2, stands key y.key ∧ y.value = value) ∧
    ∀ (c : EcdhContext SK) deviceId challengeData publicKey, c.storage = s →
      (c.loadDeviceKeys cr deviceId challengeData).1 = .ok publicKey →
      ∃ y ∈ p.2, stands (sessionKey deviceId) y.key ∧ ∃ session key,
        EcdhSession.fromJson cr y.value = .ok session ∧
        (c.loadDeviceKeys cr deviceId challengeData).2.activeSession =
          some (session.keyed cr key) ∧
        ((∀ key, stands (sessionKey deviceId) key → key = sessionKey deviceId) →
          SavedSessions cr p.2 → session.deviceId = deviceId) := by
  have hinv := bindingInv_of_reachable hcr hstands h
  rw [hs] at hinv
  refine ⟨fun key value hget => sealed_of_get hcr hinv hget, ?_⟩
  intro c deviceId challengeData publicKey hstorage hload
  rcases EcdhContext.loadDeviceKeys_cases cr c deviceId challengeData with
    ⟨e, -, hcase⟩ | ⟨e, session, -, -, hcase⟩ | ⟨session, peer, hfinds, -, hcase⟩
  · simp [hcase] at hload
  · simp [hcase] at hload
  · have hstored := hfinds.2
    rw [hstorage, EcdhContext.storedSession] at hstored
    cases hget : s.get cr (sessionKey deviceId) with
    | error e => simp [hget] at hstored
    | ok value =>
      simp only [hget] at hstored
      obtain ⟨y, hy, hstand, rfl⟩ := sealed_of_get hcr hinv hget
      refine ⟨y, hy, hstand, session, _, hstored, by rw [hcase]; rfl, fun honly hsaved => ?_⟩
      exact hsaved y hy deviceId (honly y.key hstand) session hstored

/-! ## Two paired devices -/

instance [∀ key key', Decidable (stands key key')] (cipher : ByteArr 32) (db : Db) :
    Decidable (SealedIn cr cipher stands history db) :=
  decidable_of_iff (∀ m ∈ db.entries, ∀ x ∈ openEntry cr cipher m.2,
      ∃ y ∈ history, stands m.1 y.key ∧ y.blob = x.1) <| by
    constructor
    · exact fun h key entry hlookup => h ⟨key, entry⟩ (AList.mem_lookup_iff.mp hlookup)
    · exact fun h m hm => h m.1 m.2 (AList.mem_lookup_iff.mpr hm)

instance [∀ key key', Decidable (stands key key')] (cipher : ByteArr 32) (file : Option Bytes) :
    Decidable (SealedInFile cr cipher stands history file) :=
  match h : loadDb cr none file with
  | .error e => isTrue fun db hload => by cases h.symm.trans hload
  | .ok db => decidable_of_iff (SealedIn cr cipher stands history db)
      ⟨fun hdb db' hload => Except.ok.inj (h.symm.trans hload) ▸ hdb, fun hfile => hfile db h⟩

instance [∀ key key', Decidable (stands key key')] (p : StoreState × List Sealed)
    (a : StoreAction) : Decidable (Unforged cr masterKey password stands p a) :=
  match a with
  | .edit _ => inferInstanceAs (Decidable (SealedInFile ..))
  | .set .. | .delete .. | .close | .reopen _ => isTrue trivial

/-- The session of a device. -/
def sampleSession (deviceId : String) (privateKey : UInt8) : EcdhSession UInt8 :=
  EcdhContext.pairedSession deviceId privateKey ⟨Sample.toEncodedPoint privateKey, rfl⟩
    ⟨Sample.toEncodedPoint 3, rfl⟩

/-- The JSON of the session. -/
def sampleJson (deviceId : String) (privateKey : UInt8) : Bytes :=
  ((sampleSession deviceId privateKey).toJson sampleCrates).toOption.getD []

/-- The nonce of both entries. -/
def sampleNonce : ByteArr 12 := List.Vector.replicate 12 7

/-- The entry of the session. -/
def sampleEntry (deviceId : String) (privateKey : UInt8) : String :=
  (sealEntry sampleCrates (Sample.pad32 [1]) sampleNonce (sampleJson deviceId privateKey)).getD ""

/-- The text of a map. -/
def sampleFile (members : List (String × String)) : Option Bytes :=
  some (sampleCrates.mapToJson (Sample.dbOf members))

/-- An opening in which no call fails. -/
def sampleReopen : StoreAction := .reopen (OpenEnv.quiet (Sample.pad32 []) (.ok ()))

/-- The sessions of two devices are set, the file is edited and the store opened again. -/
def editedRun (members : List (String × String)) : List StoreAction :=
  [sampleReopen, .set "session_a1" (sampleJson "a1" 5) sampleNonce .completes,
    .set "session_b2" (sampleJson "b2" 9) sampleNonce .completes, .close,
    .edit (sampleFile members), sampleReopen]

/-- What is sealed for a session. -/
def sampleSealed (deviceId : String) (privateKey : UInt8) : Sealed where
  key := sessionKey deviceId
  value := sampleJson deviceId privateKey
  blob := sampleNonce.toList ++ ((sampleCrates.aesGcmEncrypt (Sample.pad32 [1]) sampleNonce
    (sampleJson deviceId privateKey)).getD [])

theorem toJson_sampleSession (deviceId : String) (privateKey : UInt8) :
    (sampleSession deviceId privateKey).toJson sampleCrates =
      .ok (sampleJson deviceId privateKey) := by
  obtain ⟨json, hjson, -⟩ :=
    EcdhSession.toJson_fromJson sampleCrates_lawful (sampleSession deviceId privateKey)
  rw [sampleJson, hjson]
  rfl

/-- Both sessions are set under the keys of their devices. -/
theorem savedSessions_sample :
    SavedSessions sampleCrates [sampleSealed "a1" 5, sampleSealed "b2" 9] := by
  have hnone : SavedSessions sampleCrates ([] : List Sealed) := nofun
  have hone := savedSessions_save sampleCrates_lawful hnone (sampleSession "a1" 5)
    (toJson_sampleSession "a1" 5) (sampleSealed "a1" 5).blob
  exact savedSessions_save sampleCrates_lawful hone (sampleSession "b2" 9)
    (toJson_sampleSession "b2" 9) (sampleSealed "b2" 9).blob

/-- Loading the session of the first device from an open store. -/
def loadFirst (s : StorageService) : Except String (ByteArr 65) × EcdhContext UInt8 :=
  (EcdhContext.new s).loadDeviceKeys sampleCrates "a1" [1]

/-- What is found for the first device in an open store: the value of its key, and whether a load
succeeds and the device of the session that it makes active. -/
structure FoundFirst where
  value : Option Bytes
  loaded : Bool
  device : Option String
  deriving DecidableEq

def foundFor (s : StorageService) : FoundFirst where
  value := (s.get sampleCrates "session_a1").toOption
  loaded := (loadFirst s).1.toOption.isSome
  device := (loadFirst s).2.activeSession.map EcdhSession.deviceId

/-- The history of a run and what is found in the store that it has opened. -/
def foundIn (p : StoreState × List Sealed) : List Sealed × Option FoundFirst :=
  (p.2, match p.1 with
    | .opened s => some (foundFor s)
    | .closed _ => none)

theorem opened_of_foundIn {p : StoreState × List Sealed} {found : FoundFirst}
    (h : foundIn p = (history, some found)) :
    p.2 = history ∧ ∃ s, p.1 = .opened s ∧ foundFor s = found := by
  obtain ⟨hhistory, hfound⟩ := Prod.mk.inj h
  refine ⟨hhistory, ?_⟩
  cases hst : p.1 with
  | closed file => simp [hst] at hfound
  | opened s => exact ⟨s, rfl, by simpa [hst] using hfound⟩

/-- The runs can start without a file. -/
theorem init_sample :
    (withSealed sampleCrates (Sample.pad32 [1]) none).Init (.closed none, []) := by
  refine ⟨⟨none, rfl, fun db hload key entry hlookup => ?_⟩, rfl⟩
  cases hload
  cases hlookup

/-- An edit removes the session of the other device: the session of the first one is loaded. -/
theorem get_of_stands_sample : ∃ (history : List Sealed) (s : StorageService),
    (withSealed sampleCrates (Sample.pad32 [1]) none).ReachableVia
      (Unforged sampleCrates (Sample.pad32 [1]) none (· = ·)) (.opened s, history) ∧
    history = [sampleSealed "a1" 5, sampleSealed "b2" 9] ∧
    (loadFirst s).2.activeSession.map EcdhSession.deviceId = some "a1" := by
  have hrun : ((withSealed sampleCrates (Sample.pad32 [1]) none).replay
      (Unforged sampleCrates (Sample.pad32 [1]) none (· = ·)) (.closed none, [])
      (editedRun [("session_a1", sampleEntry "a1" 5), ("note", "unsealed")])).map foundIn =
      some ([sampleSealed "a1" 5, sampleSealed "b2" 9],
        some ⟨some (sampleJson "a1" 5), true, some "a1"⟩) := by decide +kernel
  obtain ⟨p, hp, hfound⟩ := Option.map_eq_some_iff.mp hrun
  obtain ⟨hhistory, s, hs, hfound⟩ := opened_of_foundIn hfound
  simp only [foundFor, FoundFirst.mk.injEq] at hfound
  obtain ⟨publicKey, hload⟩ : ∃ publicKey, (loadFirst s).1 = .ok publicKey := by
    cases hload : (loadFirst s).1 with
    | error e => simp [hload, Except.toOption] at hfound
    | ok publicKey => exact ⟨publicKey, rfl⟩
  have hreach := Transition.System.ReachableVia.of_replay _ (.init init_sample) hp
  obtain ⟨-, hloads⟩ := get_of_stands sampleCrates_lawful (fun key => rfl) hreach hs
  obtain ⟨y, hy, hkey, session, key, -, hactive, hdevice⟩ :=
    hloads (EcdhContext.new s) "a1" [1] publicKey rfl hload
  refine ⟨p.2, s, hs ▸ hreach, hhistory, ?_⟩
  have hactive : (loadFirst s).2.activeSession = some (session.keyed sampleCrates key) := hactive
  rw [hactive, Option.map_some, EcdhSession.keyed_deviceId,
    hdevice (fun key => Eq.symm) (hhistory ▸ savedSessions_sample)]

/-- Two entries change places: `get` returns for the key of one device what was set for that of the
other, and the session that is loaded for the one is of the other. -/
theorem swapped_sessions :
    (¬ ∀ p, (withSealed sampleCrates (Sample.pad32 [1]) none).ReachableVia
        (Unforged sampleCrates (Sample.pad32 [1]) none fun _ _ => True) p →
      ∀ s, p.1 = .opened s → ∀ key value, s.get sampleCrates key = .ok value →
        ∃ y ∈ p.2, y.key = key ∧ y.value = value) ∧
    ¬ ∀ p, (withSealed sampleCrates (Sample.pad32 [1]) none).ReachableVia
        (Unforged sampleCrates (Sample.pad32 [1]) none fun _ _ => True) p →
      SavedSessions sampleCrates p.2 → ∀ s, p.1 = .opened s →
        ∀ (c : EcdhContext UInt8) deviceId challengeData publicKey, c.storage = s →
          (c.loadDeviceKeys sampleCrates deviceId challengeData).1 = .ok publicKey →
          (c.loadDeviceKeys sampleCrates deviceId challengeData).2.activeSession.map
            EcdhSession.deviceId = some deviceId := by
  have hrun : ((withSealed sampleCrates (Sample.pad32 [1]) none).replay
      (Unforged sampleCrates (Sample.pad32 [1]) none fun _ _ => True) (.closed none, [])
      (editedRun [("session_a1", sampleEntry "b2" 9), ("session_b2", sampleEntry "a1" 5)])).map
        foundIn =
      some ([sampleSealed "a1" 5, sampleSealed "b2" 9],
        some ⟨some (sampleJson "b2" 9), true, some "b2"⟩) := by decide +kernel
  obtain ⟨p, hp, hfound⟩ := Option.map_eq_some_iff.mp hrun
  obtain ⟨hhistory, s, hs, hfound⟩ := opened_of_foundIn hfound
  simp only [foundFor, FoundFirst.mk.injEq] at hfound
  obtain ⟨hvalue, hloaded, hactive⟩ := hfound
  have hreach := Transition.System.ReachableVia.of_replay _ (.init init_sample) hp
  refine ⟨fun hclaim => ?_, fun hclaim => ?_⟩
  · cases hget : s.get sampleCrates "session_a1" with
    | error e => simp [hget, Except.toOption] at hvalue
    | ok value =>
      rw [hget] at hvalue
      obtain rfl : value = sampleJson "b2" 9 := Option.some.inj hvalue
      obtain ⟨y, hy, hkey, hsame⟩ := hclaim p hreach s hs _ _ hget
      rw [hhistory] at hy
      rcases List.mem_pair.mp hy with rfl | rfl
      · exact absurd hsame (by decide +kernel)
      · exact absurd hkey (by decide +kernel)
  · cases hload : (loadFirst s).1 with
    | error e => simp [hload, Except.toOption] at hloaded
    | ok publicKey =>
      have hdevice := hclaim p hreach (hhistory ▸ savedSessions_sample) s hs (EcdhContext.new s)
        "a1" [1] publicKey rfl hload
      exact absurd (hactive.symm.trans hdevice) (by decide)

end ToothPaste
