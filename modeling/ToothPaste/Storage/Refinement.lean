import ToothPaste.Crates.Sample
import ToothPaste.Storage.Service

/-!
# The store refines a plain map

What the store is for: a map from keys to byte strings (`Contents`) that survives closing and
reopening. `Represents s m` relates a store to the map it holds; the operations of the store,
when their flush completes, act on the map as insertion and deletion (`represents_insert`,
`represents_erase`), and a file that agrees with memory gives the same map back when the store
is reopened with the same master key and password (`new_of_lookup`).

* `get_of_represents`: reading the store reads the map.
* `run_refines_map`: the correspondence over whole runs of operations and reopenings.
-/

namespace ToothPaste

/-- A plain map from keys to values. -/
abbrev Contents := String → Option Bytes

/-- An opening in which no call fails. -/
def OpenEnv.quiet (raw : ByteArr 32) (setSecret : Except String Unit) : OpenEnv where
  entryNew := .ok ()
  lookupFault := none
  raw := raw
  setSecret := setSecret
  readError := none

namespace StorageService

variable {SK PK : Type} {cr : Crates SK PK}

/-- `s` holds the map `m`: the entry of each key of `m` is the sealed value, under some nonce. -/
def Represents (cr : Crates SK PK) (s : StorageService) (m : Contents) : Prop :=
  ∀ key, match m key with
    | none => s.db.lookup key = none
    | some value => ∃ nonce entry,
        sealEntry cr s.cipher nonce value = some entry ∧ s.db.lookup key = some entry

/-- The file holds the map that is in memory. -/
def FileAgrees (cr : Crates SK PK) (s : StorageService) : Prop :=
  ∃ db, loadDb cr none s.file = .ok db ∧ ∀ key, db.lookup key = s.db.lookup key

/-! ## Reading -/

theorem represents_empty (cipher : ByteArr 32) (file : Option Bytes) :
    Represents cr { cipher, file, db := ∅ } fun _ => none :=
  fun _ => AList.lookup_empty _

/-- A sealed entry opens to the value sealed in it. -/
theorem get_sealed (hcr : cr.Lawful) {s : StorageService} {key entry : String} {value : Bytes}
    {nonce : ByteArr 12} (hseal : sealEntry cr s.cipher nonce value = some entry)
    (hlookup : s.db.lookup key = some entry) : s.get cr key = .ok value := by
  -- `get` cuts the nonce off again and decrypts the rest under it
  obtain ⟨ciphertext, henc, rfl⟩ := Option.map_eq_some_iff.mp hseal
  have hdec := hcr.aesGcmDecrypt_encrypt _ _ _ _ henc
  simp only [get, hlookup, hcr.base64Decode_encode, splitNonce_append, hdec]

/-- A key without an entry is reported as missing. -/
theorem get_absent {s : StorageService} {key : String} (h : s.db.lookup key = none) :
    s.get cr key = .error "key not found in storage" := by
  simp only [get, h]

/-- `contains` looks the key up. -/
theorem contains_eq (s : StorageService) (key : String) :
    s.contains key = (s.db.lookup key).isSome := by
  rw [contains, Bool.eq_iff_iff, decide_eq_true_iff, AList.lookup_isSome]

/-- Reading a store reads the map it holds. -/
theorem get_of_represents (hcr : cr.Lawful) {s : StorageService} {m : Contents}
    (h : Represents cr s m) (key : String) :
    s.get cr key = match m key with
      | none => .error "key not found in storage"
      | some value => .ok value := by
  have hkey := h key
  cases hm : m key with
  | none => exact get_absent (by simpa [hm] using hkey)
  | some value =>
    simp only [hm] at hkey
    obtain ⟨nonce, entry, hseal, hlookup⟩ := hkey
    exact get_sealed hcr hseal hlookup

/-- `contains` tells whether the map has the key. -/
theorem contains_of_represents {s : StorageService} {m : Contents} (h : Represents cr s m)
    (key : String) : s.contains key = (m key).isSome := by
  have hkey := h key
  rw [contains_eq]
  cases hm : m key with
  | none => simp only [hm] at hkey; rw [hkey]; rfl
  | some value =>
    simp only [hm] at hkey
    obtain ⟨nonce, entry, -, hlookup⟩ := hkey
    rw [hlookup]; rfl

/-- Only the cipher and the lookups matter for the map a store holds. -/
theorem Represents.congr {s t : StorageService} {m : Contents} (h : Represents cr s m)
    (hcipher : t.cipher = s.cipher) (hlookup : ∀ key, t.db.lookup key = s.db.lookup key) :
    Represents cr t m := by
  intro key
  have hkey := h key
  cases hm : m key <;> simpa only [hm, hcipher, hlookup key] using hkey

/-! ## Writing -/

/-- A value within AES-GCM's limit is sealed under every key and nonce, and no other value is. -/
theorem sealEntry_isSome (hcr : cr.Lawful) (cipher : ByteArr 32) (nonce : ByteArr 12)
    (value : Bytes) :
    (sealEntry cr cipher nonce value).isSome = true ↔ value.length ≤ aesGcmMaxPlaintext := by
  rw [sealEntry, Option.isSome_map, hcr.aesGcmEncrypt_isSome]

/-- Inserting a sealed value is insertion in the map. -/
theorem represents_insert {s : StorageService} {m : Contents} (h : Represents cr s m)
    (key : String) {value : Bytes} {nonce : ByteArr 12} {entry : String}
    (hseal : sealEntry cr s.cipher nonce value = some entry) :
    Represents cr { s with db := s.db.insert key entry }
      (Function.update m key (some value)) := by
  intro key'
  -- the inserted key reads as sealed, and every other as before
  by_cases hkey : key' = key
  · subst hkey
    simp only [Function.update_self]
    exact ⟨nonce, entry, hseal, AList.lookup_insert _⟩
  · simp only [Function.update_of_ne hkey, AList.lookup_insert_ne hkey]
    exact h key'

/-- Erasing an entry is deletion from the map. -/
theorem represents_erase {s : StorageService} {m : Contents} (h : Represents cr s m)
    (key : String) :
    Represents cr { s with db := s.db.erase key } (Function.update m key none) := by
  intro key'
  by_cases hkey : key' = key
  · subst hkey
    simp only [Function.update_self]
    exact AList.lookup_erase _ _
  · simp only [Function.update_of_ne hkey, AList.lookup_erase_ne hkey]
    exact h key'

@[simp]
theorem flush_db (s : StorageService) (env : FlushEnv) : (s.flush cr env).2.db = s.db := by
  cases env <;> rfl

@[simp]
theorem flush_cipher (s : StorageService) (env : FlushEnv) :
    (s.flush cr env).2.cipher = s.cipher := by
  cases env <;> rfl

/-- A flush that returns `Ok` completed. -/
theorem flush_ok_iff {s : StorageService} {env : FlushEnv} :
    (s.flush cr env).1 = .ok () ↔ env = .completes := by
  cases env <;> simp [flush]

/-- A completed flush makes the file agree with memory. -/
theorem fileAgrees_flush (hcr : cr.Lawful) (s : StorageService) :
    FileAgrees cr (s.flush cr .completes).2 :=
  hcr.mapFromJson_toJson s.db

/-- A flush, however it ends, leaves the map in memory alone. -/
theorem Represents.flush {s : StorageService} {m : Contents} (h : Represents cr s m)
    (env : FlushEnv) : Represents cr (s.flush cr env).2 m :=
  h.congr (flush_cipher s env) fun key => by rw [flush_db]

/-- Setting a value within AES-GCM's limit stores it. -/
theorem set_of_sealed {s : StorageService} {value : Bytes} {nonce : ByteArr 12} {entry : String}
    (hseal : sealEntry cr s.cipher nonce value = some entry) (key : String) (env : FlushEnv) :
    s.set cr key value nonce env = flush cr { s with db := s.db.insert key entry } env := by
  simp only [set, hseal]

/-- A value that cannot be encrypted leaves the store as it is. -/
theorem set_of_not_sealed {s : StorageService} {value : Bytes} {nonce : ByteArr 12}
    (hseal : sealEntry cr s.cipher nonce value = none) (key : String) (env : FlushEnv) :
    s.set cr key value nonce env = (.error "encryption failed", s) := by
  simp only [set, hseal]

/-- When the flush completes, `set` succeeds exactly on the values within AES-GCM's limit. -/
theorem set_completes (hcr : cr.Lawful) (s : StorageService) (key : String) (value : Bytes)
    (nonce : ByteArr 12) :
    (s.set cr key value nonce .completes).1 =
      if value.length ≤ aesGcmMaxPlaintext then .ok () else .error "encryption failed" := by
  have hlen := sealEntry_isSome hcr s.cipher nonce value
  cases hseal : sealEntry cr s.cipher nonce value with
  | none => rw [set_of_not_sealed hseal, if_neg (by rw [← hlen, hseal]; simp)]
  | some entry => rw [set_of_sealed hseal, if_pos (by rw [← hlen, hseal]; rfl)]; rfl

/-- The file after a flush: the new text, or what a failure left. -/
theorem flush_file (cr : Crates SK PK) (s : StorageService) (env : FlushEnv) :
    (s.flush cr env).2.file = s.file ∨
      ∃ text, (s.flush cr env).2.file = some text ∧ text <+: cr.mapToJson s.db := by
  cases env with
  | completes => exact .inr ⟨_, rfl, List.prefix_refl _⟩
  | createDirFails e => exact .inl rfl
  | openFails e => exact .inl rfl
  | writeFails n e => exact .inr ⟨_, rfl, List.take_prefix n _⟩

/-- After a `set` that could encrypt the value, the key reads back as the value, however the
flush ended. -/
theorem get_set_of_sealed (hcr : cr.Lawful) {s : StorageService} {value : Bytes}
    {nonce : ByteArr 12} {entry : String}
    (hseal : sealEntry cr s.cipher nonce value = some entry) (key : String) (env : FlushEnv) :
    (s.set cr key value nonce env).2.get cr key = .ok value := by
  rw [set_of_sealed hseal]
  have hcipher : sealEntry cr (flush cr { s with db := s.db.insert key entry } env).2.cipher
      nonce value = some entry := by simpa using hseal
  exact get_sealed hcr hcipher (by simp)

/-- After a `set` that returned `Ok`, the key reads back as the value. -/
theorem get_set_self (hcr : cr.Lawful) {s : StorageService} {key : String} {value : Bytes}
    {nonce : ByteArr 12} {env : FlushEnv} (h : (s.set cr key value nonce env).1 = .ok ()) :
    (s.set cr key value nonce env).2.get cr key = .ok value := by
  cases hseal : sealEntry cr s.cipher nonce value with
  | none => simp [set_of_not_sealed hseal] at h
  | some entry => exact get_set_of_sealed hcr hseal key env

/-! ## Reopening -/

/-- When the keyring returns the stored master key, opening is loading the file under the cipher
key of that master key, and the keyring is not written. -/
theorem new_of_lookup (env : OpenEnv) (hentry : env.entryNew = .ok ())
    (hlookup : env.lookupFault = none) (masterKey : ByteArr 32) (file : Option Bytes)
    (password : Option String) :
    new cr env file password (some masterKey.toList) =
      (match loadDb cr env.readError file with
        | .error e => .error e
        | .ok db => .ok { cipher := cipherKey cr masterKey password, file, db },
        some masterKey.toList) := by
  simp only [new, hentry, StorageService.masterKey, getSecret, hlookup, tryInto_toList]
  cases loadDb cr env.readError file <;> rfl

/-- The store opened on a missing file. -/
def empty (cr : Crates SK PK) (masterKey : ByteArr 32) (password : Option String) :
    StorageService where
  cipher := cipherKey cr masterKey password
  file := none
  db := ∅

end StorageService

/-! ## Runs -/

/-- The operations of a run in which every flush completes: `set` with the nonce it draws,
`delete`, and closing and reopening with the same master key and password. -/
inductive StoreOp where
  | set (key : String) (value : Bytes) (nonce : ByteArr 12)
  | delete (key : String)
  | reopen (raw : ByteArr 32) (setSecret : Except String Unit)

namespace StoreOp

open StorageService

variable {SK PK : Type} {cr : Crates SK PK}

/-- An operation on the store. -/
def apply (cr : Crates SK PK) (masterKey : ByteArr 32) (password : Option String)
    (s : StorageService) : StoreOp → StorageService
  | .set key value nonce => (s.set cr key value nonce .completes).2
  | .delete key => (s.delete cr key .completes).2
  | .reopen raw setSecret =>
    match (new cr (OpenEnv.quiet raw setSecret) s.file password
      (some masterKey.toList)).1 with
    | .ok reopened => reopened
    | .error _ => s

/-- The operation on the map. A value beyond AES-GCM's limit of 64 GiB is refused by `set`. -/
def applyMap (m : Contents) : StoreOp → Contents
  | .set key value _ =>
    if value.length ≤ aesGcmMaxPlaintext then Function.update m key (some value) else m
  | .delete key => Function.update m key none
  | .reopen _ _ => m

/-- The relation between store and map that a run keeps. -/
structure Simulates (cr : Crates SK PK) (masterKey : ByteArr 32) (password : Option String)
    (s : StorageService) (m : Contents) : Prop where
  cipher : s.cipher = cipherKey cr masterKey password
  represents : Represents cr s m
  fileAgrees : FileAgrees cr s

variable {masterKey : ByteArr 32} {password : Option String}

theorem simulates_empty :
    Simulates cr masterKey password (empty cr masterKey password) fun _ => none where
  cipher := rfl
  represents := represents_empty _ _
  fileAgrees := ⟨∅, rfl, fun _ => rfl⟩

/-- Reopening a store whose file agrees with memory gives the same lookups back. -/
theorem Simulates.reopen {s : StorageService} {m : Contents}
    (h : Simulates cr masterKey password s m) (raw : ByteArr 32)
    (setSecret : Except String Unit) :
    ∃ reopened, (new cr (OpenEnv.quiet raw setSecret) s.file password
        (some masterKey.toList)).1 = .ok reopened ∧
      (∀ key, reopened.db.lookup key = s.db.lookup key) ∧
      Simulates cr masterKey password reopened m := by
  obtain ⟨db, hload, hlookup⟩ := h.fileAgrees
  refine ⟨{ cipher := cipherKey cr masterKey password, file := s.file, db }, ?_, hlookup, ?_⟩
  · rw [new_of_lookup (OpenEnv.quiet raw setSecret) rfl rfl]
    simp only [OpenEnv.quiet, hload]
  -- the file is as it was, and the map read from it has the same lookups
  · exact ⟨rfl, h.represents.congr h.cipher.symm hlookup, db, hload, fun _ => rfl⟩

/-- One operation keeps the relation. -/
theorem simulates_apply (hcr : cr.Lawful) {s : StorageService} {m : Contents}
    (h : Simulates cr masterKey password s m) (op : StoreOp) :
    Simulates cr masterKey password (op.apply cr masterKey password s) (op.applyMap m) := by
  cases op with
  | set key value nonce =>
    simp only [apply, applyMap]
    cases hseal : sealEntry cr s.cipher nonce value with
    | none =>
      -- store and map refuse the same values
      have hlong : ¬ value.length ≤ aesGcmMaxPlaintext := by
        rw [← sealEntry_isSome hcr s.cipher nonce, hseal]; simp
      rw [set_of_not_sealed hseal, if_neg hlong]
      exact h
    | some entry =>
      have hshort : value.length ≤ aesGcmMaxPlaintext := by
        rw [← sealEntry_isSome hcr s.cipher nonce, hseal]; rfl
      rw [set_of_sealed hseal, if_pos hshort]
      exact ⟨by rw [flush_cipher]; exact h.cipher,
        (represents_insert h.represents key hseal).flush _, fileAgrees_flush hcr _⟩
  | delete key =>
    exact ⟨by rw [apply, StorageService.delete, flush_cipher]; exact h.cipher,
      (represents_erase h.represents key).flush _, fileAgrees_flush hcr _⟩
  | reopen raw setSecret =>
    obtain ⟨reopened, hnew, -, hsim⟩ := h.reopen raw setSecret
    simpa only [apply, applyMap, hnew] using hsim

/-- A whole run keeps the relation. -/
theorem simulates_run (hcr : cr.Lawful) (ops : List StoreOp) :
    Simulates cr masterKey password
      (ops.foldl (apply cr masterKey password) (empty cr masterKey password))
      (ops.foldl applyMap fun _ => none) :=
  List.foldl_rel simulates_empty fun op _ _ _ h => simulates_apply hcr h op

/-- The store refines a plain map. After every run of `set`, `delete` and reopening in which every
flush completes, `get` returns exactly the value the map has for the key and an error where it has
none, `contains` agrees, a `set` within AES-GCM's limit returns `Ok`, and reopening the file gives
the map that is in memory. -/
theorem run_refines_map (hcr : cr.Lawful) (masterKey : ByteArr 32) (password : Option String)
    (ops : List StoreOp) :
    let s := ops.foldl (apply cr masterKey password) (empty cr masterKey password)
    let m := ops.foldl applyMap fun _ => none
    (∀ key, (s.get cr key = match m key with
        | none => .error "key not found in storage"
        | some value => .ok value) ∧
      s.contains key = (m key).isSome) ∧
    (∀ key value nonce, value.length ≤ aesGcmMaxPlaintext →
      (s.set cr key value nonce .completes).1 = .ok ()) ∧
    ∀ raw setSecret, ∃ reopened,
      (new cr (OpenEnv.quiet raw setSecret) s.file password
        (some masterKey.toList)).1 = .ok reopened ∧
      ∀ key, reopened.db.lookup key = s.db.lookup key := by
  intro s m
  have hsim : Simulates cr masterKey password s m := simulates_run hcr ops
  refine ⟨fun key => ⟨get_of_represents hcr hsim.represents key,
    contains_of_represents hsim.represents key⟩, ?_, ?_⟩
  · intro key value nonce hlen
    rw [set_completes hcr, if_pos hlen]
  · intro raw setSecret
    obtain ⟨reopened, hnew, hlookup, -⟩ := hsim.reopen raw setSecret
    exact ⟨reopened, hnew, hlookup⟩

/-- A run over two keys with a reopening in between: the last value of `"b"` is the empty one. -/
theorem run_refines_map_sample :
    ([.set "a" [1, 2] ⟨List.replicate 12 7, rfl⟩, .set "b" [3] ⟨List.replicate 12 0, rfl⟩,
        .reopen (Sample.pad32 []) (.ok ()), .delete "a",
        .set "b" [] ⟨List.replicate 12 9, rfl⟩].foldl
      (apply sampleCrates (Sample.pad32 [5]) (some "pw"))
      (empty sampleCrates (Sample.pad32 [5]) (some "pw"))).get sampleCrates "b" = .ok [] :=
  ((run_refines_map sampleCrates_lawful (Sample.pad32 [5]) (some "pw") _).1 "b").1.trans rfl

end StoreOp

namespace StorageService

/-- A store with one session, written under the master key `01 00 …`. -/
def sampleStore : StorageService :=
  StoreOp.apply sampleCrates (Sample.pad32 [1]) none (empty sampleCrates (Sample.pad32 [1]) none)
    (.set "session_a1" [1, 2, 3] (List.Vector.replicate 12 7))

/-- What the sample store holds. -/
def sampleContents : Contents := Function.update (fun _ => none) "session_a1" (some [1, 2, 3])

theorem sampleStore_simulates :
    StoreOp.Simulates sampleCrates (Sample.pad32 [1]) none sampleStore sampleContents :=
  StoreOp.simulates_apply sampleCrates_lawful StoreOp.simulates_empty
    (.set "session_a1" [1, 2, 3] (List.Vector.replicate 12 7))

end StorageService

end ToothPaste
