import ToothPaste.Lib.Transition
import ToothPaste.Lib.Watch
import ToothPaste.Tui.Screens

/-!
# Navigation between the screens

`ToothPasteTUI` with its loop: what has changed in the two watch channels is taken over, the current
screen is drawn, and a key is handled, while `ipc_bridge` writes the channels and reads the
commands at any time. The screens that were left are on a stack.

What matters of a screen is its kind, and which kind may stand on which (`StandsOn`). Every step
keeps the path from the current screen down the stack to the home screen (`ScreenPath`).

* `screens_stacked`: in every run the stack is empty exactly on the home screen and otherwise ends
  with it, the input of a key is above the connected screen, and only going back from the home
  screen quits.
-/

namespace ToothPaste

namespace Tui

/-! ## The application -/

/-- `ToothPasteTUI`, with the top of the stack first and the version each receiver has seen. -/
structure ToothPasteTUI where
  currentScreen : ScreenVariant
  screenStack : List ScreenVariant
  appState : AppState
  serviceAvailable : Bool
  exit : Bool
  appStateSeen : ℕ
  serviceAvailableSeen : ℕ
  deriving DecidableEq

namespace ToothPasteTUI

/-- `ToothPasteTUI::new`, with receivers as old as the channels. -/
def new (appState : Watch AppState) (serviceAvailable : Watch Bool) : ToothPasteTUI where
  currentScreen := .home .new
  screenStack := []
  appState := appState.value
  serviceAvailable := serviceAvailable.value
  exit := false
  appStateSeen := 0
  serviceAvailableSeen := 0

variable (s : ToothPasteTUI)

/-- `sync_app_state`, as far as the service is concerned. -/
def syncServiceAvailable (w : Watch Bool) : ToothPasteTUI :=
  if w.HasChanged s.serviceAvailableSeen then
    let t := if !w.value && s.serviceAvailable then
        { s with screenStack := [], currentScreen := .home .new }
      else s
    { t with serviceAvailable := w.value, serviceAvailableSeen := w.version }
  else s

/-- Scanning → DeviceList when devices are found. -/
def showDeviceList : ToothPasteTUI :=
  match s.currentScreen with
  | .scanning =>
    if s.appState.devices ≠ [] then { s with currentScreen := .deviceList (.new s.appState) } else s
  | _ => s

/-- Scanning/DeviceList → Connected when a device connects. -/
def showConnected : ToothPasteTUI :=
  match s.currentScreen with
  | .scanning | .deviceList _ =>
    if s.appState.connectedDevice.isSome then { s with currentScreen := .connected .new } else s
  | _ => s

/-- Connected → PairingInput when the device signals an authentication failure. -/
def showPairingInput : ToothPasteTUI :=
  match s.currentScreen with
  | .connected screen =>
    if s.appState.authState = some .authenticationFailed then
      { s with
        currentScreen := .pairingInput .new
        screenStack := .connected screen :: s.screenStack }
    else s
  | _ => s

/-- `sync_app_state`, as far as the state of the application is concerned. -/
def syncAppState (w : Watch AppState) : ToothPasteTUI :=
  if w.HasChanged s.appStateSeen then
    { s with appState := w.value, appStateSeen := w.version }.showDeviceList.showConnected
      |>.showPairingInput
  else s

/-- `apply_nav_signal`. -/
def applyNavSignal : NavSignal → ToothPasteTUI
  | .back =>
    match s.screenStack with
    | prev :: stack => { s with currentScreen := prev, screenStack := stack }
    | [] => { s with exit := true }
  | .screen newScreen =>
    { s with currentScreen := newScreen, screenStack := s.currentScreen :: s.screenStack }
  | .command => s

/-- `handle_keypress`. -/
def handleKeypress (cr : TuiCrates) (view : View) (key : KeyCode) :
    ToothPasteTUI × List TuiOutput :=
  let answer := s.currentScreen.handleKey cr view key
  ({ s with currentScreen := answer.screen }.applyNavSignal answer.signal, answer.outputs)

end ToothPasteTUI

/-! ## The loop -/

/-- Where `run` is. -/
inductive RunPoint where
  | syncService
  | syncState
  | draw
  | poll
  | returned
  deriving DecidableEq

/-- The client: the application, the watch channels that `ipc_bridge` writes, and the command
channel that it reads. -/
structure Client where
  app : ToothPasteTUI
  point : RunPoint
  appState : Watch AppState
  serviceAvailable : Watch Bool
  commands : List AppCommand

/-- `KeyEventKind`. -/
inductive KeyEventKind where
  | press
  | repeat
  | release
  deriving DecidableEq

/-- What the terminal reports. -/
inductive TermEvent where
  | key (code : KeyCode) (kind : KeyEventKind)
  | other

/-- The steps of `ipc_bridge` and of `run`. -/
inductive ClientAction where
  | sendAppState (newState : AppState)
  | sendServiceAvailable (available : Bool)
  | recvCommand
  | syncService
  | syncState
  /-- `select` is what drawing a list of so many items makes of the selection. -/
  | draw (select : ℕ → Option ℕ → Option ℕ)
  /-- `poll` times out or there is an event to read. -/
  | poll (event : Option TermEvent)
  /-- The terminal fails, and `run` returns the error. -/
  | fail

namespace Client

variable (c : Client)

/-- What the screens read. -/
def view : View := ⟨c.appState.value, c.serviceAvailable.value⟩

/-- An output of a screen; a command that finds no room is dropped. -/
def emit : TuiOutput → Client
  | .trySend cmd =>
    if c.commands.length < clientCommandCapacity then { c with commands := c.commands ++ [cmd] }
    else c
  -- a process of its own
  | .spawnService => c

/-- The loop goes on until `exit` is set. -/
def next : Client := { c with point := if c.app.exit then .returned else .syncService }

/-- One step. -/
def step (cr : TuiCrates) : ClientAction → Option Client
  | .sendAppState newState => some { c with appState := c.appState.send newState }
  | .sendServiceAvailable available =>
    some { c with serviceAvailable := c.serviceAvailable.send available }
  | .recvCommand => some { c with commands := c.commands.tail }
  | .syncService =>
    if c.point = .syncService then
      some { c with app := c.app.syncServiceAvailable c.serviceAvailable, point := .syncState }
    else none
  | .syncState =>
    if c.point = .syncState then
      some { c with app := c.app.syncAppState c.appState, point := .draw }
    else none
  | .draw select =>
    if c.point = .draw then
      let screen := c.app.currentScreen.render c.view select
      some { c with app := { c.app with currentScreen := screen }, point := .poll }
    else none
  | .poll event =>
    if c.point = .poll then
      match event with
      | some (.key key .press) =>
        let (app, outputs) := c.app.handleKeypress cr c.view key
        some (outputs.foldl emit { c with app }).next
      | _ => some c.next
    else none
  | .fail => if c.point = .draw ∨ c.point = .poll then some { c with point := .returned } else none

end Client

/-- The client from the time `start_tui` has set it up, whatever `ipc_bridge` has sent before. -/
def client (cr : TuiCrates) : Transition.System Client ClientAction where
  Init c := ∃ appState serviceAvailable,
    c = ⟨.new appState serviceAvailable, .syncService, appState, serviceAvailable, []⟩
  step c := c.step cr

/-! ## Which screen stands on which -/

/-- The kinds of screens. -/
inductive ScreenKind where
  | home
  | scanning
  | deviceList
  | connected
  | pairingInput
  deriving DecidableEq

/-- The kind of a screen. -/
def ScreenVariant.kind : ScreenVariant → ScreenKind
  | .home _ => .home
  | .scanning => .scanning
  | .deviceList _ => .deviceList
  | .connected _ => .connected
  | .pairingInput _ => .pairingInput

/-- A screen of the kind can be entered from one of the other kind. -/
def ScreenKind.StandsOn : ScreenKind → ScreenKind → Prop
  | .home, _ => False
  | .pairingInput, below => below = .connected
  | .scanning, _ | .deviceList, _ | .connected, _ => True

/-- The current screen and the stack below it, down to the home screen. -/
inductive ScreenPath : ScreenKind → List ScreenKind → Prop
  | home : ScreenPath .home []
  | above {kind below : ScreenKind} {stack : List ScreenKind} (hbelow : ScreenPath below stack)
      (hstands : kind.StandsOn below) : ScreenPath kind (below :: stack)

namespace ScreenPath

variable {kind kind' : ScreenKind} {stack : List ScreenKind}

/-- A screen other than the home screen can be replaced by one that can stand on any other. -/
theorem replace (h : ScreenPath kind stack) (hkind : kind ≠ .home)
    (hstands : ∀ below, kind'.StandsOn below) : ScreenPath kind' stack := by
  cases h with
  | home => exact absurd rfl hkind
  | above hbelow => exact .above hbelow (hstands _)

/-- Going back leads to a screen on the path. -/
theorem pop {below : ScreenKind} (h : ScreenPath kind (below :: stack)) :
    ScreenPath below stack := by
  cases h with
  | above hbelow => exact hbelow

/-- Only the home screen has nothing below it. -/
theorem stack_eq_nil_iff (h : ScreenPath kind stack) : stack = [] ↔ kind = .home := by
  cases h with
  | home => simp
  | above hbelow hstands =>
    refine ⟨nofun, ?_⟩
    rintro rfl
    exact hstands.elim

/-- The home screen is at the bottom of the stack and nowhere else. -/
theorem bottom (h : ScreenPath kind stack) (hne : stack ≠ []) :
    stack.getLast hne = .home ∧ ∀ k ∈ stack.dropLast, k ≠ .home := by
  induction h with
  | home => exact absurd rfl hne
  | @above kind below stack hbelow hstands ih =>
    cases hbelow with
    | home => simp
    | above hbelow' hstands' =>
      obtain ⟨hlast, hrest⟩ := ih (List.cons_ne_nil _ _)
      refine ⟨by rwa [List.getLast_cons (List.cons_ne_nil _ _)], ?_⟩
      rw [List.dropLast_cons_of_ne_nil (List.cons_ne_nil _ _)]
      rintro k hk rfl
      rcases List.mem_cons.mp hk with rfl | hk
      · exact hstands'.elim
      · exact hrest _ hk rfl

/-- The way down ends on the home screen, which is nowhere else on it. -/
theorem getElem?_eq_home_iff (h : ScreenPath kind stack) (i : ℕ) :
    (kind :: stack)[i]? = some .home ↔ i = stack.length := by
  induction h generalizing i with
  | home => cases i <;> simp
  | @above kind below stack hbelow hstands ih =>
    cases i with
    | zero =>
      have hne : kind ≠ .home := by
        rintro rfl
        exact hstands.elim
      simp [hne]
    | succ i => exact (ih i).trans Nat.succ_inj.symm

/-- Below the input of a key is the connected screen. -/
theorem below_pairingInput (h : ScreenPath kind stack) (i : ℕ)
    (hi : (kind :: stack)[i]? = some .pairingInput) :
    (kind :: stack)[i + 1]? = some .connected := by
  induction h generalizing i with
  | home => cases i <;> simp at hi
  | above hbelow hstands ih =>
    cases i with
    | zero =>
      obtain rfl := Option.some.inj hi
      exact congrArg some hstands
    | succ i => exact ih i hi

end ScreenPath

/-! ## Steps -/

variable {cr : TuiCrates} {view : View}

namespace ScreenVariant

/-- A screen that answers a key stays of its kind. -/
theorem kind_handleKey (screen : ScreenVariant) (key : KeyCode) :
    (screen.handleKey cr view key).screen.kind = screen.kind := by
  cases screen <;> cases key <;> rfl

/-- Drawing a screen does not change its kind. -/
@[simp]
theorem kind_render (select : ℕ → Option ℕ → Option ℕ) (screen : ScreenVariant) :
    (screen.render view select).kind = screen.kind := by
  cases screen with
  | home | scanning | pairingInput => rfl
  | deviceList s | connected s =>
    dsimp only [render]
    split_ifs <;> rfl

/-- The home screen and the device list are left for a scan, and the connected screen for the input
of a key. -/
theorem screen_of_handleKey {screen newScreen : ScreenVariant} {key : KeyCode}
    (h : (screen.handleKey cr view key).signal = .screen newScreen) :
    (screen.kind = .home ∨ screen.kind = .deviceList) ∧ newScreen = .scanning ∨
      screen.kind = .connected ∧ newScreen = .pairingInput .new := by
  cases key with
  | backspace =>
    cases screen with
    | home | scanning | deviceList | connected => cases h
    | pairingInput s =>
      dsimp only [handleKey, handleBackKey, Answer.map, PairingInputScreen.handleBackKey] at h
      split_ifs at h
  | enter =>
    cases screen with
    | home s =>
      dsimp only [handleKey, handleEnterKey, Answer.map, HomeScreen.handleEnterKey] at h
      grind [HomeScreen.startScan, HomeScreen.killService, ScreenVariant.kind]
    | scanning => cases h
    | deviceList s =>
      dsimp only [handleKey, handleEnterKey, Answer.map, DeviceListScreen.handleEnterKey] at h
      grind
    | connected s =>
      dsimp only [handleKey, handleEnterKey, Answer.map, ConnectedScreen.handleEnterKey] at h
      grind [ScreenVariant.kind]
    | pairingInput s =>
      dsimp only [handleKey, handleEnterKey, Answer.map, PairingInputScreen.submit] at h
      grind
  | up | down | esc | other =>
    cases screen with
    | deviceList s =>
      dsimp only [handleKey, handleNavKey, Answer.map, DeviceListScreen.handleNavKey] at h
      split_ifs at h
    | home | scanning | connected | pairingInput => cases h
  | char c =>
    cases screen with
    | home s =>
      dsimp only [handleKey, handleNavKey, Answer.map, HomeScreen.handleNavKey] at h
      split_ifs at h
      cases h
    | scanning =>
      dsimp only [handleKey, handleNavKey, Answer.map, scanningHandleNavKey] at h
      split_ifs at h
    | deviceList s =>
      dsimp only [handleKey, handleNavKey, Answer.map, DeviceListScreen.handleNavKey] at h
      split_ifs at h
      exact .inl ⟨.inr rfl, (NavSignal.screen.inj h).symm⟩
    | connected s =>
      dsimp only [handleKey, handleNavKey, Answer.map, ConnectedScreen.handleNavKey] at h
      split_ifs at h
    | pairingInput s => cases h

/-- A key leads to a screen that can stand on the one it was pressed on. -/
theorem standsOn_of_handleKey {screen newScreen : ScreenVariant} {key : KeyCode}
    (h : (screen.handleKey cr view key).signal = .screen newScreen) :
    newScreen.kind.StandsOn screen.kind := by
  rcases screen_of_handleKey h with ⟨-, rfl⟩ | ⟨hkind, rfl⟩
  · exact trivial
  · exact hkind

end ScreenVariant

namespace ToothPasteTUI

/-- The screens are on a path down to the home screen. -/
def Stacked (s : ToothPasteTUI) : Prop :=
  ScreenPath s.currentScreen.kind (s.screenStack.map ScreenVariant.kind)

variable {s : ToothPasteTUI}

/-- A screen that changes and stays of its kind stays where it is. -/
theorem Stacked.withScreen (h : s.Stacked) {screen : ScreenVariant}
    (hkind : screen.kind = s.currentScreen.kind) :
    ToothPasteTUI.Stacked { s with currentScreen := screen } := by
  rw [Stacked, hkind]
  exact h

/-- A signal keeps the path if the screen it leads to can stand on the current one. -/
theorem Stacked.applyNavSignal (h : s.Stacked) {signal : NavSignal}
    (hstands : ∀ newScreen, signal = .screen newScreen →
      newScreen.kind.StandsOn s.currentScreen.kind) : (s.applyNavSignal signal).Stacked := by
  cases signal with
  | command => exact h
  | screen newScreen => exact .above h (hstands newScreen rfl)
  | back =>
    rw [Stacked] at h
    rw [ToothPasteTUI.applyNavSignal]
    cases hstack : s.screenStack with
    | nil =>
      rw [hstack] at h
      exact h
    | cons prev stack =>
      rw [hstack] at h
      exact h.pop

/-- A key keeps the path. -/
theorem Stacked.handleKeypress (h : s.Stacked) (key : KeyCode) :
    (s.handleKeypress cr view key).1.Stacked := by
  have hkind : (s.currentScreen.handleKey cr view key).screen.kind = s.currentScreen.kind :=
    s.currentScreen.kind_handleKey key
  refine (h.withScreen hkind).applyNavSignal fun newScreen hsignal => ?_
  rw [hkind]
  exact ScreenVariant.standsOn_of_handleKey hsignal

/-- A service that is lost leads back to the home screen. -/
theorem Stacked.syncServiceAvailable (h : s.Stacked) (w : Watch Bool) :
    (s.syncServiceAvailable w).Stacked := by
  unfold ToothPasteTUI.syncServiceAvailable
  split_ifs
  · exact .home
  · exact h
  · exact h

/-- The list of devices is put in the place of the scanning screen. -/
theorem Stacked.showDeviceList (h : s.Stacked) : s.showDeviceList.Stacked := by
  unfold ToothPasteTUI.showDeviceList
  split
  case h_1 hscreen =>
    split_ifs
    · refine ScreenPath.replace h ?_ fun _ => trivial
      rw [hscreen]
      exact nofun
    · exact h
  case h_2 => exact h

/-- The connected screen is put in the place of the scanning screen or the list. -/
theorem Stacked.showConnected (h : s.Stacked) : s.showConnected.Stacked := by
  unfold ToothPasteTUI.showConnected
  split
  case h_1 hscreen | h_2 hscreen =>
    split_ifs
    · refine ScreenPath.replace h ?_ fun _ => trivial
      rw [hscreen]
      exact nofun
    · exact h
  case h_3 => exact h

/-- The input of a key is put above the connected screen. -/
theorem Stacked.showPairingInput (h : s.Stacked) : s.showPairingInput.Stacked := by
  unfold ToothPasteTUI.showPairingInput
  split
  case h_1 hscreen =>
    split_ifs
    · rw [Stacked, hscreen] at h
      exact .above h rfl
    · exact h
  case h_2 => exact h

/-- Taking note of a published state keeps the path. -/
theorem Stacked.syncAppState (h : s.Stacked) (w : Watch AppState) :
    (s.syncAppState w).Stacked := by
  unfold ToothPasteTUI.syncAppState
  split_ifs
  · have hread : Stacked { s with appState := w.value, appStateSeen := w.version } := h
    exact hread.showDeviceList.showConnected.showPairingInput
  · exact h

/-! ### Quitting -/

/-- Taking note of the service does not quit. -/
@[simp]
theorem exit_syncServiceAvailable (w : Watch Bool) : (s.syncServiceAvailable w).exit = s.exit := by
  unfold ToothPasteTUI.syncServiceAvailable
  split_ifs <;> rfl

/-- Taking note of a published state does not quit. -/
@[simp]
theorem exit_syncAppState (w : Watch AppState) : (s.syncAppState w).exit = s.exit := by
  have hlist : ∀ s : ToothPasteTUI, s.showDeviceList.exit = s.exit := fun s => by
    unfold ToothPasteTUI.showDeviceList
    split
    · split_ifs <;> rfl
    · rfl
  have hconnected : ∀ s : ToothPasteTUI, s.showConnected.exit = s.exit := fun s => by
    unfold ToothPasteTUI.showConnected
    split
    · split_ifs <;> rfl
    · split_ifs <;> rfl
    · rfl
  have hpairing : ∀ s : ToothPasteTUI, s.showPairingInput.exit = s.exit := fun s => by
    unfold ToothPasteTUI.showPairingInput
    split
    · split_ifs <;> rfl
    · rfl
  unfold ToothPasteTUI.syncAppState
  split_ifs
  · rw [hpairing, hconnected, hlist]
  · rfl

/-- Only going back with nothing on the stack sets `exit`. -/
theorem exit_handleKeypress (key : KeyCode) :
    (s.handleKeypress cr view key).1.exit = true ↔ s.exit = true ∨
      (s.currentScreen.handleKey cr view key).signal = .back ∧ s.screenStack = [] := by
  rw [ToothPasteTUI.handleKeypress]
  cases hsignal : (s.currentScreen.handleKey cr view key).signal with
  | command | screen => simp [applyNavSignal]
  | back => cases s.screenStack <;> simp [applyNavSignal]

end ToothPasteTUI

namespace Client

variable {c t : Client}

/-- What is sent out leaves the screens as they are. -/
@[simp]
theorem emit_app (output : TuiOutput) : (c.emit output).app = c.app := by
  cases output with
  | trySend cmd =>
    rw [emit]
    split_ifs <;> rfl
  | spawnService => rfl

theorem foldl_emit_app (outputs : List TuiOutput) (c : Client) :
    (outputs.foldl emit c).app = c.app := by
  induction outputs generalizing c with
  | nil => rfl
  | cons output outputs ih => rw [List.foldl_cons, ih, emit_app]

/-- The steps: one constructor for each outcome. -/
inductive Moves (cr : TuiCrates) (c : Client) : ClientAction → Client → Prop
  | sendAppState (newState : AppState) :
      Moves cr c (.sendAppState newState) { c with appState := c.appState.send newState }
  | sendServiceAvailable (available : Bool) :
      Moves cr c (.sendServiceAvailable available)
        { c with serviceAvailable := c.serviceAvailable.send available }
  | recvCommand : Moves cr c .recvCommand { c with commands := c.commands.tail }
  | syncService (hpoint : c.point = .syncService) :
      Moves cr c .syncService
        { c with app := c.app.syncServiceAvailable c.serviceAvailable, point := .syncState }
  | syncState (hpoint : c.point = .syncState) :
      Moves cr c .syncState { c with app := c.app.syncAppState c.appState, point := .draw }
  | draw (hpoint : c.point = .draw) (select : ℕ → Option ℕ → Option ℕ) :
      Moves cr c (.draw select) { c with
        app := { c.app with currentScreen := c.app.currentScreen.render c.view select }
        point := .poll }
  | key (hpoint : c.point = .poll) (key : KeyCode) :
      Moves cr c (.poll (some (.key key .press)))
        ((c.app.handleKeypress cr c.view key).2.foldl emit
          { c with app := (c.app.handleKeypress cr c.view key).1 }).next
  | poll (hpoint : c.point = .poll) (event : Option TermEvent)
      (hother : ∀ key, event ≠ some (.key key .press)) : Moves cr c (.poll event) c.next
  | fail : Moves cr c .fail { c with point := .returned }

/-- Every step is one of the cases. -/
theorem moves_of_step {a : ClientAction} (hst : c.step cr a = some t) : c.Moves cr a t := by
  unfold step at hst
  cases a with
  | sendAppState | sendServiceAvailable | recvCommand =>
    obtain rfl := Option.some.inj hst
    constructor
  | syncService | syncState | draw =>
    dsimp only at hst
    split_ifs at hst with hpoint
    obtain rfl := Option.some.inj hst
    constructor
    exact hpoint
  | fail =>
    dsimp only at hst
    split_ifs at hst
    obtain rfl := Option.some.inj hst
    exact .fail
  | poll event =>
    dsimp only at hst
    split_ifs at hst with hpoint
    split at hst
    case h_1 => exact Option.some.inj hst ▸ .key hpoint _
    case h_2 hother => exact Option.some.inj hst ▸ .poll hpoint event hother

/-- What holds in every reachable state: the screens are stacked, and the loop has returned if
`exit` is set. -/
structure Inv (c : Client) : Prop where
  stacked : c.app.Stacked
  returned : c.app.exit = true → c.point = .returned

/-- The loop goes on, or returns if `exit` is set. -/
theorem Inv.next (h : c.app.Stacked) : c.next.Inv := by
  refine ⟨h, fun hexit => ?_⟩
  rw [Client.next] at hexit ⊢
  exact if_pos hexit

/-- Every step keeps the invariant. -/
theorem inv_step (h : c.Inv) {a : ClientAction} (hst : c.step cr a = some t) : t.Inv := by
  -- a step that goes on in the loop finds `exit` not set
  have hgoes : c.point ≠ .returned → c.app.exit = false := fun hpoint =>
    Bool.eq_false_iff.mpr fun hexit => hpoint (h.returned hexit)
  cases moves_of_step hst with
  | sendAppState | sendServiceAvailable | recvCommand => exact ⟨h.stacked, h.returned⟩
  | syncService hpoint =>
    refine ⟨h.stacked.syncServiceAvailable _, fun hexit => ?_⟩
    rw [ToothPasteTUI.exit_syncServiceAvailable, hgoes (by rw [hpoint]; decide)] at hexit
    cases hexit
  | syncState hpoint =>
    refine ⟨h.stacked.syncAppState _, fun hexit => ?_⟩
    rw [ToothPasteTUI.exit_syncAppState, hgoes (by rw [hpoint]; decide)] at hexit
    cases hexit
  | draw hpoint select =>
    refine ⟨h.stacked.withScreen (ScreenVariant.kind_render select _), fun hexit => ?_⟩
    rw [hgoes (by rw [hpoint]; decide)] at hexit
    cases hexit
  | key hpoint key =>
    refine Inv.next ?_
    rw [foldl_emit_app]
    exact h.stacked.handleKeypress key
  | poll => exact Inv.next h.stacked
  | fail => exact ⟨h.stacked, fun _ => rfl⟩

/-- Every reachable state has the invariant. -/
theorem inv_of_reachable (h : (client cr).Reachable c) : c.Inv := by
  refine h.invariant ?_ fun c a t hc hst => inv_step hc hst
  rintro _ ⟨appState, serviceAvailable, rfl⟩
  exact ⟨.home, nofun⟩

/-- A step that sets `exit` goes back from the home screen. -/
theorem back_of_exit (h : c.Inv) {a : ClientAction} (hst : c.step cr a = some t)
    (hbefore : c.app.exit = false) (hafter : t.app.exit = true) :
    ∃ key, a = .poll (some (.key key .press)) ∧ c.app.currentScreen.kind = .home ∧
      (c.app.currentScreen.handleKey cr c.view key).signal = .back := by
  have hkept : t.app.exit ≠ c.app.exit := by
    rw [hbefore, hafter]
    decide
  cases moves_of_step hst with
  | key hpoint key =>
    have hexit : (c.app.handleKeypress cr c.view key).1.exit = true := by
      simpa only [Client.next, foldl_emit_app] using hafter
    rcases (ToothPasteTUI.exit_handleKeypress key).mp hexit with hold | ⟨hsignal, hstack⟩
    · rw [hbefore] at hold
      cases hold
    · refine ⟨key, rfl, ?_, hsignal⟩
      exact h.stacked.stack_eq_nil_iff.mp (List.map_eq_nil_iff.mpr hstack)
  -- no other step sets `exit`
  | syncService | syncState => exact absurd (by simp) hkept
  | sendAppState | sendServiceAvailable | recvCommand | draw | poll | fail =>
    exact absurd rfl hkept

end Client

/-- In every run of the client, with any changes of the two watch channels and any keys: the stack
is empty exactly on the home screen; otherwise the home screen is at its bottom, and nowhere else
in it; the input of a key, on the stack or not, is directly above a connected screen. The
application sets `exit` only on a key that goes back from the home screen, and no key on another
screen sets it. -/
theorem screens_stacked {c : Client} (h : (client cr).Reachable c) :
    (c.app.screenStack = [] ↔ c.app.currentScreen.kind = .home) ∧
    (∀ hne : c.app.screenStack ≠ [], (c.app.screenStack.getLast hne).kind = .home ∧
      ∀ screen ∈ c.app.screenStack.dropLast, screen.kind ≠ .home) ∧
    (∀ i input, (c.app.currentScreen :: c.app.screenStack)[i]? = some (.pairingInput input) →
      ∃ screen, (c.app.currentScreen :: c.app.screenStack)[i + 1]? = some (.connected screen)) ∧
    (∀ a t, (client cr).step c a = some t → c.app.exit = false → t.app.exit = true →
      ∃ key, a = .poll (some (.key key .press)) ∧ c.app.currentScreen.kind = .home ∧
        (c.app.currentScreen.handleKey cr c.view key).signal = .back) ∧
    ∀ key t, c.app.currentScreen.kind ≠ .home →
      (client cr).step c (.poll (some (.key key .press))) = some t → t.app.exit = false := by
  have hinv := Client.inv_of_reachable h
  have hpath := hinv.stacked
  refine ⟨?_, fun hne => ?_, fun i input hi => ?_, fun a t => Client.back_of_exit hinv,
    fun key t hkind hst => ?_⟩
  · rw [← hpath.stack_eq_nil_iff, List.map_eq_nil_iff]
  · obtain ⟨hlast, hrest⟩ := hpath.bottom (List.map_eq_nil_iff.not.mpr hne)
    rw [List.getLast_map] at hlast
    refine ⟨hlast, fun screen hscreen => hrest _ ?_⟩
    rw [← List.map_dropLast]
    exact List.mem_map_of_mem hscreen
  · have hbelow := hpath.below_pairingInput i (by
      rw [← List.map_cons, List.getElem?_map, hi]
      rfl)
    rw [← List.map_cons, List.getElem?_map] at hbelow
    obtain ⟨screen, hscreen, hconnected⟩ := Option.map_eq_some_iff.mp hbelow
    cases screen with
    | connected screen => exact ⟨screen, hscreen⟩
    | home | scanning | deviceList | pairingInput => cases hconnected
  · have hst : c.step cr (.poll (some (.key key .press))) = some t := hst
    by_contra hexit
    -- the loop has not returned
    have hbefore : c.app.exit = false := by
      by_contra hset
      have hreturned := hinv.returned (by simpa using hset)
      simp [Client.step, hreturned] at hst
    obtain ⟨_, -, hhome, -⟩ := Client.back_of_exit hinv hst hbefore (by simpa using hexit)
    exact hkind hhome

/-- Lists that clamp the selection to the last item. -/
def clampSelection (items : ℕ) (selected : Option ℕ) : Option ℕ :=
  if items = 0 then none else selected.map (min · (items - 1))

/-- Selections that move by one, and the bytes of a text as its base64. -/
def sampleTuiCrates : TuiCrates where
  selectPrevious selected := some ((selected.map (· - 1)).getD (2 ^ 64 - 1))
  selectNext selected := some ((selected.map (· + 1)).getD 0)
  base64Decode text := .ok text.toUTF8.data.toList

/-- One round of the loop, in which a key is pressed. -/
def roundWith (key : KeyCode) : List ClientAction :=
  [.syncService, .syncState, .draw clampSelection, .poll (some (.key key .press))]

/-- A connected device that refuses the session. -/
def refusingDevice : Device where
  name := "ToothPaste"
  address := "00:00:00:00:00:A1"
  id := ""
  state := .connected .authenticationFailed "1.0.0"
  signalStrength := -40

/-- A scan is started, a device is connected that has to be paired, and the input of the key is
cancelled twice. -/
def pairingRun : List ClientAction :=
  roundWith .down ++ roundWith .enter ++
    [.sendAppState { AppState.initial with connectedDevice := some refusingDevice }] ++
    roundWith (.char 'A') ++ roundWith .backspace ++ roundWith .backspace ++ [.syncService]

/-- The input of the key was left for the connected screen, which stands on the home screen. -/
theorem screens_stacked_sample : ∃ c : Client,
    (c.app.currentScreen.kind, c.app.screenStack.map ScreenVariant.kind) = (.connected, [.home]) ∧
    (c.app.screenStack = [] ↔ c.app.currentScreen.kind = .home) := by
  have hrun : ((client sampleTuiCrates).replay (fun _ _ => True)
      ⟨.new ⟨AppState.initial, 0⟩ ⟨true, 0⟩, .syncService, ⟨AppState.initial, 0⟩, ⟨true, 0⟩, []⟩
      pairingRun).map
        (fun c => (c.app.currentScreen.kind, c.app.screenStack.map ScreenVariant.kind)) =
      some (.connected, [.home]) := by decide +kernel
  obtain ⟨c, hc, hscreens⟩ := Option.map_eq_some_iff.mp hrun
  exact ⟨c, hscreens, (screens_stacked (.of_replay pairingRun (.init ⟨_, _, rfl⟩) hc)).1⟩

end Tui

end ToothPaste
