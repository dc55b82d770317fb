import ToothPaste.Crates

/-!
# The encrypted key-value store

`StorageService` of `modules/storage.rs`: a map from keys to `base64(nonce ‖ ciphertext ‖ tag)`,
held in memory and written whole to one JSON file after every change, under a cipher key derived
from a master key in the OS keyring and an optional password.

The outcomes of the calls that leave the process (keyring, file system) and the random draws are
arguments (`OpenEnv`, `FlushEnv`, nonces), so that a statement about all of them is a statement
about every failure. The functions that change the store return it next to their result: an
`Err` does not undo what was changed before it.
-/

namespace ToothPaste

/-- `NONCE_SIZE`. -/
def nonceSize : ℕ := 12

/-- `StorageService`. The file at `db_path` is kept next to the memory copy as it is on disk,
`none` where it does not exist. -/
structure StorageService where
  /-- The key of the `Aes256Gcm` cipher. -/
  cipher : ByteArr 32
  /-- The file at `db_path`. -/
  file : Option Bytes
  /-- In-memory map: key to `base64(nonce ‖ ciphertext ‖ tag)`. -/
  db : Db

/-- Why a keyring lookup failed. The service does not tell these cases apart. -/
inductive KeyringError where
  | noEntry
  | noStorageAccess
  | platformFailure (message : String)
  | other (message : String)
  deriving DecidableEq, Repr

/-- How the calls outside the process go in one run of `StorageService::new`. -/
structure OpenEnv where
  /-- `Entry::new`. -/
  entryNew : Except String Unit
  /-- The error of `entry.get_secret()`, if it does not return the secret the keyring holds. -/
  lookupFault : Option KeyringError
  /-- What `thread_rng().fill_bytes` would write. -/
  raw : ByteArr 32
  /-- `entry.set_secret(&raw)`. -/
  setSecret : Except String Unit
  /-- An I/O error of `fs::read_to_string`, if any. -/
  readError : Option String

/-- How the file system calls of one `flush` go. `fs::write` truncates the file and then writes
the text front to back, so that a failing write leaves a prefix of it. -/
inductive FlushEnv where
  | completes
  | createDirFails (message : String)
  | openFails (message : String)
  | writeFails (written : ℕ) (message : String)
  deriving DecidableEq, Repr

/-- `&blob[..NONCE_SIZE]` and `&blob[NONCE_SIZE..]`, when the blob is long enough. -/
def splitNonce (blob : Bytes) : Option (ByteArr 12 × Bytes) :=
  if h : blob.length < nonceSize then none
  else some (⟨blob.take nonceSize, by simp [nonceSize] at h ⊢; omega⟩, blob.drop nonceSize)

/-- A blob that starts with a nonce is cut after it. -/
@[simp]
theorem splitNonce_append (nonce : ByteArr 12) (rest : Bytes) :
    splitNonce (nonce.toList ++ rest) = some (nonce, rest) := by
  obtain ⟨bytes, hlen⟩ := nonce
  have hlong : ¬ (bytes ++ rest).length < nonceSize := by
    simp [nonceSize, hlen]
  change splitNonce (bytes ++ rest) = _
  rw [splitNonce, dif_neg hlong]
  simp only [nonceSize, List.take_left' hlen, List.drop_left' hlen]

namespace StorageService

variable {SK PK : Type} (cr : Crates SK PK)

/-- The cipher key: the master key itself, or its HKDF expansion salted with the password. -/
def cipherKey (masterKey : ByteArr 32) (password : Option String) : ByteArr 32 :=
  match password with
  | none => masterKey
  | some pw => cr.hkdfSha256 (some (utf8 pw)) masterKey.toList (utf8 "toothpaste-desktop-v1")

/-- `entry.get_secret()`: the secret the keyring holds, unless the lookup fails. -/
def getSecret (env : OpenEnv) (keyring : Option Bytes) : Except KeyringError Bytes :=
  match env.lookupFault with
  | some e => .error e
  | none =>
    match keyring with
    | some secret => .ok secret
    | none => .error .noEntry

/-- The catch-all branch of the keyring match: generate a master key and save it. Returns the
secret the keyring holds afterwards as well. -/
def generateMasterKey (env : OpenEnv) (keyring : Option Bytes) :
    Except String (ByteArr 32) × Option Bytes :=
  match env.setSecret with
  | .error e => (.error e, keyring)
  | .ok () => (.ok env.raw, some env.raw.toList)

/-- The keyring match of `StorageService::new`: a stored secret of 32 bytes is used, anything
else is answered by a fresh key. -/
def masterKey (env : OpenEnv) (keyring : Option Bytes) :
    Except String (ByteArr 32) × Option Bytes :=
  match getSecret env keyring with
  | .ok key =>
    match tryInto 32 key with
    | some key => (.ok key, keyring)
    | none => generateMasterKey env keyring
  -- the branch is written for the first run, but every error comes here
  | .error _ => generateMasterKey env keyring

/-- The map in the file at `db_path`; a missing file is an empty map. -/
def loadDb (readError : Option String) (file : Option Bytes) : Except String Db :=
  match file with
  | none => .ok ∅
  | some text =>
    match readError with
    | some e => .error e
    | none => cr.mapFromJson text

/-- `StorageService::new`. Returns the secret the keyring holds afterwards as well. -/
def new (env : OpenEnv) (file : Option Bytes) (password : Option String)
    (keyring : Option Bytes) : Except String StorageService × Option Bytes :=
  match env.entryNew with
  | .error e => (.error e, keyring)
  | .ok () =>
    match masterKey env keyring with
    | (.error e, keyring) => (.error e, keyring)
    | (.ok key, keyring) =>
      -- a fresh key is in the keyring before the file is read
      match loadDb cr env.readError file with
      | .error e => (.error e, keyring)
      | .ok db => (.ok { cipher := cipherKey cr key password, file, db }, keyring)

/-- `StorageService::get`. -/
def get (s : StorageService) (key : String) : Except String Bytes :=
  match s.db.lookup key with
  | none => .error "key not found in storage"
  | some entry =>
    match cr.base64Decode entry with
    | .error e => .error e
    | .ok blob =>
      match splitNonce blob with
      | none => .error "corrupted storage entry"
      | some (nonce, ciphertext) =>
        match cr.aesGcmDecrypt s.cipher nonce ciphertext with
        | none => .error "decryption failed"
        | some value => .ok value

/-- `StorageService::contains`. -/
def contains (s : StorageService) (key : String) : Bool :=
  decide (key ∈ s.db)

/-- `StorageService::flush`: write the whole map to the file. -/
def flush (s : StorageService) (env : FlushEnv) : Except String Unit × StorageService :=
  match env with
  | .createDirFails e => (.error e, s)
  | .openFails e => (.error e, s)
  -- what the file held before is gone as soon as it is opened
  | .writeFails n e => (.error e, { s with file := some ((cr.mapToJson s.db).take n) })
  | .completes => (.ok (), { s with file := some (cr.mapToJson s.db) })

/-- The entry `set` stores for a value under a nonce, unless encryption fails. -/
def sealEntry (cipher : ByteArr 32) (nonce : ByteArr 12) (value : Bytes) : Option String :=
  (cr.aesGcmEncrypt cipher nonce value).map fun ciphertext =>
    cr.base64Encode (nonce.toList ++ ciphertext)

/-- `StorageService::set`. The map is changed before it is flushed. -/
def set (s : StorageService) (key : String) (value : Bytes) (nonce : ByteArr 12)
    (env : FlushEnv) : Except String Unit × StorageService :=
  match sealEntry cr s.cipher nonce value with
  | none => (.error "encryption failed", s)
  | some entry => flush cr { s with db := s.db.insert key entry } env

/-- `StorageService::delete`. The map is changed before it is flushed. -/
def delete (s : StorageService) (key : String) (env : FlushEnv) :
    Except String Unit × StorageService :=
  flush cr { s with db := s.db.erase key } env

end StorageService

end ToothPaste
