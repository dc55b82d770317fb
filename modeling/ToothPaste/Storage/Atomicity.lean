import ToothPaste.Lib.PrefixWrite
import ToothPaste.Storage.Refinement

/-!
# What a failed update leaves behind

`set` and `delete` change the map in memory and then write the whole map over the file. Nothing
is undone when the write fails, and the file is overwritten in place. What is left of an update
that fails or is cut off by a crash is described by `update_leaves`: in memory the map before it
or after it, on disk the map before it, the map after it, or a text cut short that does not load.
-/

namespace ToothPaste

open PrefixWrite StorageService

/-- A `set` or a `delete`. -/
inductive StoreUpdate where
  | set (key : String) (value : Bytes) (nonce : ByteArr 12)
  | delete (key : String)

namespace StoreUpdate

variable {SK PK : Type} {cr : Crates SK PK}

/-- The call of an update. -/
def call (cr : Crates SK PK) (s : StorageService) (env : FlushEnv) :
    StoreUpdate → Except String Unit × StorageService
  | .set key value nonce => s.set cr key value nonce env
  | .delete key => s.delete cr key env

/-- The map after the update; none where the value cannot be encrypted. -/
def target (cr : Crates SK PK) (s : StorageService) : StoreUpdate → Option Db
  | .set key value nonce => (sealEntry cr s.cipher nonce value).map fun entry =>
      s.db.insert key entry
  | .delete key => some (s.db.erase key)

/-- `content` is what the file may hold when the call has returned, or when the process has
stopped at some point during the call. -/
def Leaves (cr : Crates SK PK) (s : StorageService) (u : StoreUpdate) (content : Option Bytes) :
    Prop :=
  (∃ env, content = (u.call cr s env).2.file) ∨ content = s.file ∨
    ∃ db, u.target cr s = some db ∧ Passes s.file (cr.mapToJson db) content

/-- Opening a file with this content loads the map `db`. -/
def LoadsAs (cr : Crates SK PK) (content : Option Bytes) (db : Db) : Prop :=
  ∃ loaded, loadDb cr none content = .ok loaded ∧ ∀ key, loaded.lookup key = db.lookup key

variable {s : StorageService} {u : StoreUpdate}

/-- An update that cannot be encrypted is refused before anything is changed. -/
theorem call_of_target_none (h : u.target cr s = none) (env : FlushEnv) :
    u.call cr s env = (.error "encryption failed", s) := by
  cases u with
  | set key value nonce => exact set_of_not_sealed (Option.map_eq_none_iff.mp h) key env
  | delete key => cases h

/-- Every other update changes the map in memory and flushes it. -/
theorem call_of_target_some {db : Db} (h : u.target cr s = some db) (env : FlushEnv) :
    u.call cr s env = flush cr { s with db } env := by
  cases u with
  | set key value nonce =>
    obtain ⟨entry, hseal, rfl⟩ := Option.map_eq_some_iff.mp h
    exact set_of_sealed hseal key env
  | delete key => cases h; rfl

/-- A flush leaves a content that writing the map passes through. -/
theorem passes_flush (s : StorageService) (env : FlushEnv) :
    Passes s.file (cr.mapToJson s.db) (s.flush cr env).2.file := by
  cases env with
  | completes => exact Passes.complete _ _
  -- the file is truncated only once it is open
  | createDirFails | openFails => exact .untouched
  | writeFails n => exact .written n

/-- What an update leaves is the file as it was, or a content that writing the new map passes
through. -/
theorem leaves_iff {content : Option Bytes} :
    u.Leaves cr s content ↔ content = s.file ∨
      ∃ db, u.target cr s = some db ∧ Passes s.file (cr.mapToJson db) content := by
  constructor
  · rintro (⟨env, rfl⟩ | h)
    · cases htarget : u.target cr s with
      -- an update that is refused does not touch the file
      | none => rw [call_of_target_none htarget]; exact .inl rfl
      | some db =>
        rw [call_of_target_some htarget]
        exact .inr ⟨db, rfl, passes_flush { s with db } env⟩
    · exact h
  · exact .inr

/-- A map's text cut short does not load. -/
theorem loadDb_cutShort (hcr : cr.Lawful) {db : Db} {content : Option Bytes}
    (h : CutShort (cr.mapToJson db) content) : ∃ e, loadDb cr none content = .error e := by
  obtain ⟨cut, rfl, hcut, hne⟩ := h
  exact hcr.mapFromJson_cut db cut hcut hne

/-- A content that loads is no text cut short. -/
theorem LoadsAs.error_iff_cutShort (hcr : cr.Lawful) {content : Option Bytes} {db : Db}
    (h : LoadsAs cr content db) :
    (∃ e, loadDb cr none content = .error e) ↔
      ∃ db', u.target cr s = some db' ∧ CutShort (cr.mapToJson db') content := by
  obtain ⟨loaded, hok, -⟩ := h
  constructor
  · rintro ⟨e, herr⟩
    rw [hok] at herr
    cases herr
  · rintro ⟨db', -, hcut⟩
    exact loadDb_cutShort hcr hcut

/-- What an update leaves behind, from a store that agrees with its file.

In memory: a call that returns `Ok` leaves the map after the update; a call that returns `Err`
leaves the store as it was if the value could not be encrypted, and otherwise the map after the
update. On disk, whatever the failure or crash point: opening the file loads the map before the
update or the map after it, or fails, and it fails exactly when the write was cut off strictly
inside the new text. -/
theorem update_leaves (hcr : cr.Lawful) (hs : FileAgrees cr s) (u : StoreUpdate) :
    (∀ env, (u.call cr s env).1 = .ok () →
      ∃ db, u.target cr s = some db ∧ (u.call cr s env).2.db = db ∧
        LoadsAs cr (u.call cr s env).2.file db) ∧
    (∀ env e, (u.call cr s env).1 = .error e →
      (u.target cr s = none ∧ (u.call cr s env).2 = s) ∨
        u.target cr s = some (u.call cr s env).2.db) ∧
    ∀ content, u.Leaves cr s content →
      (LoadsAs cr content s.db ∨ (∃ db, u.target cr s = some db ∧ LoadsAs cr content db) ∨
        ∃ e, loadDb cr none content = .error e) ∧
      ((∃ e, loadDb cr none content = .error e) ↔
        ∃ db, u.target cr s = some db ∧ CutShort (cr.mapToJson db) content) := by
  refine ⟨?returned, ?failed, ?leaves⟩
  case returned =>
    intro env hok
    cases htarget : u.target cr s with
    | none => rw [call_of_target_none htarget] at hok; cases hok
    | some db =>
      rw [call_of_target_some htarget] at hok ⊢
      have henv := flush_ok_iff.mp hok
      subst henv
      exact ⟨db, rfl, flush_db _ _, fileAgrees_flush hcr { s with db }⟩
  case failed =>
    intro env e _
    cases htarget : u.target cr s with
    | none => exact .inl ⟨rfl, by rw [call_of_target_none htarget]⟩
    | some db => exact .inr (by rw [call_of_target_some htarget, flush_db])
  case leaves =>
    intro content hleaves
    have hold : LoadsAs cr s.file s.db := hs
    rcases leaves_iff.mp hleaves with rfl | ⟨db, htarget, hpass⟩
    · exact ⟨.inl hold, hold.error_iff_cutShort hcr⟩
    · have hnew : LoadsAs cr (some (cr.mapToJson db)) db := hcr.mapFromJson_toJson db
      rcases hpass.old_or_new_or_cut with rfl | rfl | hcut
      -- nothing was written yet, everything was, or the text was cut short
      · exact ⟨.inl hold, hold.error_iff_cutShort hcr⟩
      · exact ⟨.inr (.inl ⟨db, htarget, hnew⟩), hnew.error_iff_cutShort hcr⟩
      · have herr := loadDb_cutShort hcr hcut
        exact ⟨.inr (.inr herr), fun _ => ⟨db, htarget, hcut⟩, fun _ => herr⟩

/-- Deleting the sample store's only entry, cut off after the opening brace, leaves a file that
does not load. -/
theorem update_leaves_sample : ∃ e, loadDb sampleCrates none (some [123]) = .error e :=
  ((update_leaves sampleCrates_lawful sampleStore_simulates.fileAgrees
    (.delete "session_a1")).2.2 (some [123]) (.inl ⟨.writeFails 1 "Input/output error", rfl⟩)).2.mpr
    ⟨_, rfl, [123], rfl, ⟨[125], rfl⟩, by decide⟩

/-- The disk fills up while a session is overwritten: `set` returns `Err`, memory has the new
value all the same, and the file no longer loads. -/
theorem set_not_atomic :
    let failed := (set "session_a1" [9] (List.Vector.replicate 12 8)).call sampleCrates
      sampleStore (.writeFails 1 "No space left on device")
    FileAgrees sampleCrates sampleStore ∧
      failed.1 = .error "No space left on device" ∧
      sampleStore.get sampleCrates "session_a1" = .ok [1, 2, 3] ∧
      failed.2.get sampleCrates "session_a1" = .ok [9] ∧
      ∃ e, loadDb sampleCrates none failed.2.file = .error e := by
  intro failed
  refine ⟨sampleStore_simulates.fileAgrees, rfl, rfl, by decide, _, rfl⟩

end StoreUpdate

end ToothPaste
