import Mathlib.Data.Finset.Basic
import Mathlib.Data.Rat.Defs
import ToothPaste.Input.Event

/-!
# The input handler

`SysInputHandler` of `modules/input/handler.rs`, called by the input listener once for each event.
A handler method returns the new handler and what it does to the outside world in the order it
does it: it sends a whole application state on the watch channel, puts an event in the input
channel, or panics. What is printed or shown as a desktop notification is left out, and so is
`handle_scroll_event`, which nothing calls.
-/

namespace ToothPaste

/-- `KeyCombo`. -/
structure KeyCombo where
  requiresCtrl : Bool
  requiresAlt : Bool
  requiresShift : Bool
  targetKey : Key

/-- `SysInputHandler`, without its channels. Times are nanoseconds since the epoch. -/
structure SysInputHandler where
  pressedKeys : Finset Key
  currentState : AppState
  mouseLastPosition : ℚ × ℚ
  accumulatedDelta : ℚ × ℚ
  mouseDebounceThresholdMs : ℕ
  mouseLastEventTime : ℤ

/-- What the handler does to its channels. -/
inductive HandlerOutput where
  /-- `app_state_tx.send`. -/
  | updateState (newState : AppState)
  /-- `input_event_tx.try_send`. -/
  | trySend (event : InputEvent)
  /-- The clipboard cannot be opened: `unwrap` panics in the listener's thread. -/
  | panic
  deriving DecidableEq

/-- The three flags of the application state that the hotkeys flip. -/
inductive CaptureFlag where
  | key
  | clipboard
  | mouse
  deriving DecidableEq, Repr

namespace AppState

/-- A capture flag of the application state. -/
def flag (app : AppState) : CaptureFlag → Bool
  | .key => app.enableKeyCapture
  | .clipboard => app.enableClipboardCapture
  | .mouse => app.enableMouseCapture

/-- `AppState { flag: !self.current_state.flag, ..self.current_state.clone() }`. -/
def toggle (app : AppState) : CaptureFlag → AppState
  | .key => { app with enableKeyCapture := !app.enableKeyCapture }
  | .clipboard => { app with enableClipboardCapture := !app.enableClipboardCapture }
  | .mouse => { app with enableMouseCapture := !app.enableMouseCapture }

variable (app : AppState) (f g : CaptureFlag)

@[simp]
theorem toggle_devices : (app.toggle f).devices = app.devices := by
  cases f <;> rfl

@[simp]
theorem toggle_connectedDevice : (app.toggle f).connectedDevice = app.connectedDevice := by
  cases f <;> rfl

/-- A toggle flips its own flag and no other. -/
theorem flag_toggle : (app.toggle f).flag g = if g = f then !app.flag g else app.flag g := by
  cases f <;> cases g <;> rfl

end AppState

namespace SysInputHandler

/-- `SysInputHandler::new`, at the time `now`. -/
def new (state : AppState) (now : ℤ) : SysInputHandler where
  pressedKeys := ∅
  currentState := state
  mouseLastPosition := (0, 0)
  accumulatedDelta := (0, 0)
  mouseDebounceThresholdMs := 50
  mouseLastEventTime := now

variable (h : SysInputHandler)

/-- One of the two keys is held. -/
def holds (left right : Key) : Bool := left ∈ h.pressedKeys ∨ right ∈ h.pressedKeys

/-- `is_combo_active`: the modifiers the combo requires are held. -/
def isComboActive (combo : KeyCombo) : Bool :=
  let ctrlOk := !combo.requiresCtrl || h.holds .controlLeft .controlRight
  let altOk := !combo.requiresAlt || h.holds .alt .altGr
  let shiftOk := !combo.requiresShift || h.holds .shiftLeft .shiftRight
  ctrlOk && altOk && shiftOk

/-- `build_hid_report`: the codes of the modifiers in the first five bytes, then the key's code
and two reserved bytes. -/
def buildHidReport (combo : KeyCombo) : Option Bytes :=
  let modifiers :=
    (if combo.requiresCtrl then (keyToHid .controlLeft).toList else []) ++
    (if combo.requiresShift then (keyToHid .shiftLeft).toList else []) ++
    (if combo.requiresAlt then (keyToHid .alt).toList else [])
  ((keyToHid combo.targetKey).or (keyToAscii combo.targetKey)).map fun keyCode =>
    modifiers ++ List.replicate (5 - modifiers.length) 0 ++ [keyCode, 0, 0]

/-! ## Hotkeys and the clipboard -/

/-- A hotkey: Ctrl, Alt and `targetKey` flip a capture flag in the state read at the start of the
event and send the whole of it. -/
def handleDisableEvent (targetKey : Key) (flag : CaptureFlag) (key : Key) : List HandlerOutput :=
  let combo : KeyCombo :=
    { requiresCtrl := true, requiresAlt := true, requiresShift := false, targetKey }
  if key = targetKey ∧ h.isComboActive combo = true then
    [.updateState (h.currentState.toggle flag)]
  else []

/-- `handle_disable_key_capture_event`. -/
def handleDisableKeyCaptureEvent (key : Key) : List HandlerOutput :=
  h.handleDisableEvent .keyC .key key

/-- `handle_disable_clipboard_capture_event`. -/
def handleDisableClipboardCaptureEvent (key : Key) : List HandlerOutput :=
  h.handleDisableEvent .keyV .clipboard key

/-- `handle_disable_mouse_capture_event`. -/
def handleDisableMouseCaptureEvent (key : Key) : List HandlerOutput :=
  h.handleDisableEvent .keyM .mouse key

/-- What `Clipboard::new` and `get_text` return: the clipboard cannot be opened, holds no text, or
holds a text. -/
inductive ClipboardEnv where
  | unavailable
  | noText
  | text (contents : String)
  deriving DecidableEq

/-- `handle_clipboard_event`. -/
def handleClipboardEvent (key : Key) (clipboard : ClipboardEnv) : List HandlerOutput :=
  if h.currentState.enableClipboardCapture = true ∧ key = .keyV ∧
      h.holds .controlLeft .controlRight = true then
    match clipboard with
    | .unavailable => [.panic]
    | .noText => []
    | .text contents => [.trySend (.clipboard contents)]
  else []

/-! ## Events -/

/-- The last part of the `KeyPress` branch: with key capture on, the key goes to the device as a
report or as a character. -/
def forwardKey (event : Event) (key : Key) : List HandlerOutput :=
  if h.currentState.enableKeyCapture then
    let combo : KeyCombo :=
      { requiresCtrl := h.holds .controlLeft .controlRight
        requiresAlt := h.holds .alt .altGr
        requiresShift := h.holds .shiftLeft .shiftRight
        targetKey := key }
    let hasModifiers := combo.requiresCtrl || combo.requiresAlt || combo.requiresShift
    let isSpecial := (keyToHid combo.targetKey).isSome
    let isPrintable := (keyToAscii combo.targetKey).isSome
    if hasModifiers || isSpecial then
      match buildHidReport combo with
      | some report => [.trySend (.keycode report)]
      -- the key has no code
      | none => []
    else if isPrintable then [.trySend (.rdevEvent event)]
    else []
  else []

/-- What a panic leaves undone: nothing after it happens. -/
def upToPanic : List HandlerOutput → List HandlerOutput
  | [] => []
  | .panic :: _ => [.panic]
  | output :: outputs => output :: upToPanic outputs

/-- `handle_keyboard_event`. -/
def handleKeyboardEvent (event : Event) (clipboard : ClipboardEnv) :
    SysInputHandler × List HandlerOutput :=
  match event.eventType with
  | .keyPress key =>
    let h := { h with pressedKeys := insert key h.pressedKeys }
    -- all of these see the flags as they were when the event started
    (h, upToPanic (h.handleDisableKeyCaptureEvent key ++
      h.handleDisableClipboardCaptureEvent key ++ h.handleDisableMouseCaptureEvent key ++
      h.handleClipboardEvent key clipboard ++ h.forwardKey event key))
  | .keyRelease key => ({ h with pressedKeys := h.pressedKeys.erase key }, [])
  | _ => (h, [])

/-- `handle_mouse_click`. -/
def handleMouseClick (event : Event) : List HandlerOutput :=
  if h.currentState.enableMouseCapture then [.trySend (.rdevEvent event)] else []

/-- The event that forwards what was accumulated, unless it is nothing or capture is off. -/
def forwardDelta (eventTime : ℤ) (captureEnabled : Bool) (createEvent : ℚ × ℚ → EventType) :
    List HandlerOutput :=
  if (h.accumulatedDelta.1 ≠ 0 ∨ h.accumulatedDelta.2 ≠ 0) ∧ captureEnabled = true then
    [.trySend (.rdevEvent
      { time := eventTime, name := none, eventType := createEvent h.accumulatedDelta })]
  else []

/-- The direction of a movement on one axis is opposite to what was accumulated. -/
def directionChanged (delta accumulated : ℚ) : Bool :=
  (0 < delta ∧ accumulated < 0) ∨ (delta < 0 ∧ 0 < accumulated)

/-- `process_accumulated_event`: what was accumulated is forwarded when the direction changes, and
once the debounce threshold has passed. -/
def processAccumulatedEvent (delta : ℚ × ℚ) (eventTime : ℤ) (debounceThresholdMs : ℕ)
    (captureEnabled : Bool) (createEvent : ℚ × ℚ → EventType) :
    SysInputHandler × List HandlerOutput :=
  if directionChanged delta.1 h.accumulatedDelta.1 || directionChanged delta.2 h.accumulatedDelta.2
  then
    -- what was accumulated is forwarded, and accumulation starts over with this movement
    ({ h with accumulatedDelta := delta, mouseLastEventTime := eventTime },
      h.forwardDelta eventTime captureEnabled createEvent)
  else
    let h := { h with accumulatedDelta :=
      (h.accumulatedDelta.1 + delta.1, h.accumulatedDelta.2 + delta.2) }
    -- `duration_since` is an error when the event is older than the last one
    if h.mouseLastEventTime ≤ eventTime ∧
        debounceThresholdMs ≤ (eventTime - h.mouseLastEventTime) / 1000000 then
      ({ h with accumulatedDelta := (0, 0), mouseLastEventTime := eventTime },
        h.forwardDelta eventTime captureEnabled createEvent)
    else (h, [])

/-- `handle_mouse_move`. -/
def handleMouseMove (event : Event) : SysInputHandler × List HandlerOutput :=
  match event.eventType with
  | .mouseMove x y =>
    let delta := (x - h.mouseLastPosition.1, y - h.mouseLastPosition.2)
    { h with mouseLastPosition := (x, y) }.processAccumulatedEvent delta event.time
      h.mouseDebounceThresholdMs h.currentState.enableMouseCapture fun delta =>
        .mouseMove delta.1 delta.2
  | _ => (h, [])

/-- `handle_event`, where the watch channel holds `state` when it starts. -/
def handleEvent (state : AppState) (event : Event) (clipboard : ClipboardEnv) :
    SysInputHandler × List HandlerOutput :=
  let h := { h with currentState := state }
  match event.eventType with
  | .keyPress _ | .keyRelease _ => h.handleKeyboardEvent event clipboard
  | .mouseMove _ _ => h.handleMouseMove event
  | .buttonPress _ | .buttonRelease _ => (h, h.handleMouseClick event)
  | .wheel _ _ => (h, [])

end SysInputHandler

end ToothPaste
