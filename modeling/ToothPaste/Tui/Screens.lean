import ToothPaste.Core

/-!
# The screens of the client

The screens of `toothpaste-desktop-tui` with what they keep, and how each of them answers a key:
with a signal to the application, a change to itself, and commands for the service. What a screen
reads of the two watch channels is the argument `View`.
-/

namespace ToothPaste

namespace Tui

/-- What the client calls in other crates: the selection of a list, as `ratatui` moves it, and
`BASE64.decode`. -/
structure TuiCrates where
  /-- `ListState::select_previous`. -/
  selectPrevious : Option ℕ → Option ℕ
  /-- `ListState::select_next`. -/
  selectNext : Option ℕ → Option ℕ
  base64Decode : String → Except String Bytes

/-- `KeyCode`, as far as the screens tell keys apart. -/
inductive KeyCode where
  | backspace
  | enter
  | up
  | down
  | esc
  | char (c : Char)
  | other
  deriving DecidableEq

/-- What is in the watch channels. -/
structure View where
  appState : AppState
  serviceAvailable : Bool

/-- What a screen does besides changing itself. -/
inductive TuiOutput where
  /-- `cmd_tx.try_send`. -/
  | trySend (cmd : AppCommand)
  | spawnService
  deriving DecidableEq

/-! ## Screens -/

/-- `HomeScreen`. -/
structure HomeScreen where
  selected : Option ℕ
  status : String
  deriving DecidableEq

/-- `DeviceListScreen`. -/
structure DeviceListScreen where
  selected : Option ℕ
  connectingTo : Option String
  status : String
  deriving DecidableEq

/-- `ConnectedScreen`. -/
structure ConnectedScreen where
  selected : Option ℕ
  status : String
  deriving DecidableEq

/-- `PairingInputScreen`. -/
structure PairingInputScreen where
  pairInput : List Char
  status : String
  deriving DecidableEq

/-- `ScreenVariant`. All that `ScanningScreen` keeps is its throbber. -/
inductive ScreenVariant where
  | home (screen : HomeScreen)
  | scanning
  | deviceList (screen : DeviceListScreen)
  | connected (screen : ConnectedScreen)
  | pairingInput (screen : PairingInputScreen)
  deriving DecidableEq

/-- `HomeScreen::new`. -/
def HomeScreen.new : HomeScreen := ⟨none, ""⟩

/-- `DeviceListScreen::new`. -/
def DeviceListScreen.new (initialState : AppState) : DeviceListScreen where
  selected := some 0
  connectingTo := none
  status := s!"{initialState.devices.length} device(s) found"

/-- `ConnectedScreen::new`. -/
def ConnectedScreen.new : ConnectedScreen := ⟨some 0, ""⟩

/-- `PairingInputScreen::new`. -/
def PairingInputScreen.new : PairingInputScreen := ⟨[], "Enter peer public key (base64):"⟩

/-- `NavSignal`. -/
inductive NavSignal where
  | back
  | screen (newScreen : ScreenVariant)
  | command
  deriving DecidableEq

/-- How a screen answers a key. -/
structure Answer (σ : Type) where
  signal : NavSignal
  screen : σ
  outputs : List TuiOutput

/-- The answer of a screen as that of the variant it is in. -/
def Answer.map {σ τ : Type} (f : σ → τ) (answer : Answer σ) : Answer τ :=
  ⟨answer.signal, f answer.screen, answer.outputs⟩

variable (cr : TuiCrates) (view : View)

/-! ## Home -/

namespace HomeScreen

variable (s : HomeScreen)

/-- The service is asked to shut down. -/
def killService : Answer HomeScreen :=
  ⟨.command, { s with status := "Shutting down service..." }, [.trySend .killService]⟩

/-- `start_scan`. -/
def startScan : Answer HomeScreen := ⟨.screen .scanning, s, [.trySend .scanForDevices]⟩

/-- `handle_nav_key`. -/
def handleNavKey : KeyCode → Answer HomeScreen
  | .up => ⟨.command, { s with selected := cr.selectPrevious s.selected }, []⟩
  | .down => ⟨.command, { s with selected := cr.selectNext s.selected }, []⟩
  | .char c =>
    if c = 'x' ∨ c = 'X' then
      if view.serviceAvailable then s.killService else ⟨.command, s, []⟩
    else if c = 'q' ∨ c = 'Q' then ⟨.back, s, []⟩
    else ⟨.command, s, []⟩
  | .esc => ⟨.back, s, []⟩
  | _ => ⟨.command, s, []⟩

/-- `handle_enter_key`. -/
def handleEnterKey : Answer HomeScreen :=
  if view.serviceAvailable then
    match s.selected with
    | some 0 => s.startScan
    | some 1 => s.killService
    | some 2 => ⟨.back, s, []⟩
    | _ => ⟨.command, s, []⟩
  else
    match s.selected with
    | some 0 => ⟨.command, { s with status := "Starting service..." }, [.spawnService]⟩
    | some 1 => ⟨.back, s, []⟩
    | _ => ⟨.command, s, []⟩

/-- The number of items that are drawn. -/
def items : ℕ := if view.serviceAvailable then 3 else 2

end HomeScreen

/-! ## Scanning -/

/-- `ScanningScreen::handle_nav_key`. -/
def scanningHandleNavKey : KeyCode → Answer Unit
  | .char c => if c = 'q' ∨ c = 'Q' then ⟨.back, (), []⟩ else ⟨.command, (), []⟩
  | .esc => ⟨.back, (), []⟩
  | _ => ⟨.command, (), []⟩

/-! ## Device list -/

namespace DeviceListScreen

variable (s : DeviceListScreen)

/-- `handle_nav_key`. -/
def handleNavKey (key : KeyCode) : Answer DeviceListScreen :=
  if s.connectingTo.isSome then ⟨.command, s, []⟩
  else
    match key with
    | .up => ⟨.command, { s with selected := cr.selectPrevious s.selected }, []⟩
    | .down => ⟨.command, { s with selected := cr.selectNext s.selected }, []⟩
    | .char c =>
      if c = 's' ∨ c = 'S' then ⟨.screen .scanning, s, [.trySend .scanForDevices]⟩
      else if c = 'q' ∨ c = 'Q' then ⟨.back, s, []⟩
      else ⟨.command, s, []⟩
    | .esc => ⟨.back, s, []⟩
    | _ => ⟨.command, s, []⟩

/-- `handle_enter_key`. -/
def handleEnterKey : Answer DeviceListScreen :=
  if s.connectingTo.isSome then ⟨.command, s, []⟩
  else
    match s.selected.bind fun idx => view.appState.devices[idx]? with
    | some device =>
      ⟨.command, { s with connectingTo := some device.name }, [.trySend (.connectToDevice device)]⟩
    | none => ⟨.command, s, []⟩

end DeviceListScreen

/-! ## Connected -/

namespace ConnectedScreen

variable (s : ConnectedScreen)

/-- `handle_nav_key`. -/
def handleNavKey : KeyCode → Answer ConnectedScreen
  | .up => ⟨.command, { s with selected := cr.selectPrevious s.selected }, []⟩
  | .down => ⟨.command, { s with selected := cr.selectNext s.selected }, []⟩
  | .char c =>
    if c = 'd' ∨ c = 'D' then ⟨.back, s, [.trySend .disconnectDevice]⟩
    else if c = 'q' ∨ c = 'Q' then ⟨.back, s, []⟩
    else ⟨.command, s, []⟩
  | .esc => ⟨.back, s, []⟩
  | _ => ⟨.command, s, []⟩

/-- `handle_enter_key`: the first item is there only to pair a device. -/
def handleEnterKey : Answer ConnectedScreen :=
  match s.selected, view.appState.isAuthenticated with
  | some 0, false => ⟨.screen (.pairingInput .new), s, []⟩
  | some 0, true | some 1, false => ⟨.back, s, [.trySend .disconnectDevice]⟩
  | _, _ => ⟨.command, s, []⟩

end ConnectedScreen

/-! ## Pairing -/

namespace PairingInputScreen

variable (s : PairingInputScreen)

/-- `submit`. -/
def submit : Answer PairingInputScreen :=
  let trimmed := String.ofList (trim (String.ofList s.pairInput))
  match cr.base64Decode trimmed with
  | .ok bytes =>
    if bytes.length = 33 then
      match view.appState.connectedDevice with
      | some device => ⟨.back, { s with pairInput := [] }, [.trySend (.pairDevice device trimmed)]⟩
      | none => ⟨.command, s, []⟩
    else
      ⟨.command, { s with status := "Invalid key: expected 33 bytes (compressed P-256)." }, []⟩
  | .error _ => ⟨.command, { s with status := "Invalid base64. Try again." }, []⟩

/-- `handle_back_key`: what was typed is deleted first. -/
def handleBackKey : Answer PairingInputScreen :=
  if s.pairInput = [] then ⟨.back, s, []⟩
  else ⟨.command, { s with pairInput := s.pairInput.dropLast }, []⟩

/-- `handle_nav_key`. -/
def handleNavKey : KeyCode → Answer PairingInputScreen
  | .char c => ⟨.command, { s with pairInput := s.pairInput ++ [c] }, []⟩
  | .esc => ⟨.back, s, []⟩
  | _ => ⟨.command, s, []⟩

end PairingInputScreen

/-! ## Any screen -/

namespace ScreenVariant

/-- `handle_back_key`. Only the input of a key does not go back at once. -/
def handleBackKey : ScreenVariant → Answer ScreenVariant
  | .pairingInput s => s.handleBackKey.map .pairingInput
  | screen => ⟨.back, screen, []⟩

/-- `handle_nav_key`. -/
def handleNavKey (key : KeyCode) : ScreenVariant → Answer ScreenVariant
  | .home s => (s.handleNavKey cr view key).map .home
  | .scanning => (scanningHandleNavKey key).map fun _ => .scanning
  | .deviceList s => (s.handleNavKey cr key).map .deviceList
  | .connected s => (s.handleNavKey cr key).map .connected
  | .pairingInput s => (s.handleNavKey key).map .pairingInput

/-- `handle_enter_key`. -/
def handleEnterKey : ScreenVariant → Answer ScreenVariant
  | .home s => (s.handleEnterKey view).map .home
  | .scanning => ⟨.command, .scanning, []⟩
  | .deviceList s => (s.handleEnterKey view).map .deviceList
  | .connected s => (s.handleEnterKey view).map .connected
  | .pairingInput s => (s.submit cr view).map .pairingInput

/-- The answer to a key. -/
def handleKey (screen : ScreenVariant) : KeyCode → Answer ScreenVariant
  | .backspace => screen.handleBackKey
  | .enter => screen.handleEnterKey cr view
  | key => screen.handleNavKey cr view key

/-- The list that a screen draws, as far as it changes the selection: `select` is what drawing a
list of so many items makes of it. -/
def render (select : ℕ → Option ℕ → Option ℕ) : ScreenVariant → ScreenVariant
  | .home s => .home { s with selected := select (HomeScreen.items view) s.selected }
  | .deviceList s =>
    if s.connectingTo.isSome then .deviceList s
    else .deviceList { s with selected := select view.appState.devices.length s.selected }
  | .connected s =>
    let items := if view.appState.isAuthenticated then 1 else 2
    if view.appState.connectedDevice.isSome then
      .connected { s with selected := select items s.selected }
    else .connected s
  | .scanning => .scanning
  | .pairingInput s => .pairingInput s

end ScreenVariant

end Tui

end ToothPaste
