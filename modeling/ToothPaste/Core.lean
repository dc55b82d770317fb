import Mathlib.Data.Vector.Basic

/-!
# Shared data model

The types of the `toothpaste-desktop-core` crate (what the service publishes to its clients and
what clients ask of it), and byte strings as the other modules use them.

`Vec<u8>` and `&[u8]` are lists of bytes; `[u8; n]` is a list of length `n`. `f64` coordinates
are exact rationals, as nothing here depends on their rounding.
-/

namespace ToothPaste

/-- `Vec<u8>` and `&[u8]`. -/
abbrev Bytes := List UInt8

/-- `[u8; n]`. -/
abbrev ByteArr (n : ℕ) := List.Vector UInt8 n

/-- `<[u8; n]>::try_from`: a slice of the right length as an array. -/
def tryInto (n : ℕ) (bytes : Bytes) : Option (ByteArr n) :=
  if h : bytes.length = n then some ⟨bytes, h⟩ else none

/-- Reading an array's own bytes back gives the array. -/
@[simp]
theorem tryInto_toList {n : ℕ} (a : ByteArr n) : tryInto n a.toList = some a := by
  obtain ⟨bytes, h⟩ := a
  simp [tryInto, List.Vector.toList, h]

/-- A slice of length `n` converts. -/
theorem exists_tryInto {n : ℕ} {bytes : Bytes} (h : bytes.length = n) :
    ∃ a, tryInto n bytes = some a ∧ a.toList = bytes :=
  ⟨⟨bytes, h⟩, by simp [tryInto, h], rfl⟩

/-! ## Strings -/

/-- The bytes of a string, `str::as_bytes`. -/
def utf8 (s : String) : Bytes := s.toUTF8.data.toList

/-- `char::is_whitespace`: the Unicode property `White_Space`. -/
def isWhitespace (c : Char) : Bool :=
  let n := c.toNat
  (0x09 ≤ n && n ≤ 0x0D) || n == 0x20 || n == 0x85 || n == 0xA0 || n == 0x1680 ||
    (0x2000 ≤ n && n ≤ 0x200A) || n == 0x2028 || n == 0x2029 || n == 0x202F || n == 0x205F ||
    n == 0x3000

/-- `text.trim()`, as characters. -/
def trim (text : String) : List Char :=
  ((text.toList.dropWhile isWhitespace).reverse.dropWhile isWhitespace).reverse

/-! ## Application state -/

/-- `AuthState`: how far the handshake with the connected device has come. -/
inductive AuthState where
  | notAuthenticated
  | authenticationFailed
  | authenticated (pubkey sessionKey : String)
  deriving DecidableEq, Repr

/-- `DeviceState`. -/
inductive DeviceState where
  | connected (authState : AuthState) (firmwareVersion : String)
  | disconnected
  deriving DecidableEq, Repr

/-- `Device`: a ToothPaste device as it is shown to clients. -/
structure Device where
  name : String
  address : String
  id : String
  state : DeviceState
  signalStrength : ℤ
  deriving DecidableEq, Repr

/-- `AppState`: the state the service publishes through its watch channel. -/
structure AppState where
  appVersion : String
  appString : String
  devices : List Device
  autoConnect : Option Device
  connectedDevice : Option Device
  passwordProtected : Bool
  settingsFilePath : Option String
  enableKeyCapture : Bool
  enableClipboardCapture : Bool
  enableMouseCapture : Bool
  deriving DecidableEq, Repr

/-- `SETTINGS_FILE_DEFAULT_PATH`. -/
def settingsFileDefaultPath : String := ".\\toothpaste_storage.json"

/-- The state `main` creates the watch channel with. -/
def AppState.initial : AppState where
  appVersion := "0.1.0"
  appString := "ToothPaste Desktop Service"
  devices := []
  autoConnect := none
  connectedDevice := none
  passwordProtected := false
  settingsFilePath := some settingsFileDefaultPath
  enableKeyCapture := false
  enableClipboardCapture := false
  enableMouseCapture := false

/-- `AppCommand`: what a client may ask of the service. -/
inductive AppCommand where
  | scanForDevices
  | connectToDevice (device : Device)
  | disconnectDevice
  | pairDevice (device : Device) (pubKey : String)
  | sendKeyboardInput (text : String)
  | sendMouseJiggle (enable : Bool)
  | updateSettings (autoConnect : Option Device) (passwordProtected : Bool)
      (settingsFilePath : Option String)
  | killService
  deriving DecidableEq, Repr

/-- The capacity of the channel in which the screens of the client put commands. -/
def clientCommandCapacity : ℕ := 32

/-- The published authentication state, when a device is connected. -/
def AppState.authState (app : AppState) : Option AuthState :=
  match app.connectedDevice with
  | some { state := .connected authState _, .. } => some authState
  | _ => none

/-- `connected_device` is published as `Authenticated`. -/
def AppState.isAuthenticated (app : AppState) : Bool :=
  match app.authState with
  | some (.authenticated _ _) => true
  | _ => false

end ToothPaste
