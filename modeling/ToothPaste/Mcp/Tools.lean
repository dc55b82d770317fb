import ToothPaste.Ble.Payloads
import ToothPaste.Mcp.Combos

/-!
# The tools of the MCP server

The tools of `modules/mcp/mod.rs` that make the device do something: what each puts in the two
channels of the BLE task, in order, and what it replies. A tool either rejects its argument before
it sends anything or sends all it has to send to one of the two channels (`sends_oneChannel`).

A coordinate is the rational number it is read as.
-/

namespace ToothPaste

namespace Mcp

/-! ## Tools -/

/-- A JSON-RPC error. -/
structure RpcError where
  code : ℤ
  message : String
  deriving DecidableEq, Repr

/-- What a tool sends: a command or an input event, each to its own channel. -/
inductive ChannelSend where
  | command (cmd : AppCommand)
  | event (event : InputEvent)

/-- What a tool replies with: the text of `tool_ok` before its arguments are printed. -/
inductive ToolReply where
  | typed (text : String)
  | pressed (key : String)
  | mouseMoved (x y : ℚ)
  | clicked (button : String)
  | scrolled (delta : ℤ)
  | media (action : String)
  deriving DecidableEq

/-- What a tool does: it rejects its argument, or it sends and then replies. -/
abbrev ToolOutcome := Except RpcError (List ChannelSend × ToolReply)

/-- The error of an argument a tool rejects. -/
def invalidParams (message : String) : RpcError := ⟨-32602, message⟩

/-- `make_event`, at the time `now`. -/
def makeEvent (now : ℤ) (eventType : EventType) : Event := ⟨now, none, eventType⟩

/-- `tool_type_text`. -/
def toolTypeText (text : String) : ToolOutcome :=
  .ok ([.command (.sendKeyboardInput text)], .typed text)

/-- `tool_press_key`. -/
def toolPressKey (key : String) : ToolOutcome :=
  match parseKeyCombo key with
  | none => .error (invalidParams s!"unrecognised key: {key}")
  | some report => .ok ([.event (.keycode report.toList)], .pressed key)

/-- `tool_mouse_move`. -/
def toolMouseMove (x y : ℚ) (now : ℤ) : ToolOutcome :=
  .ok ([.event (.rdevEvent (makeEvent now (.mouseMove x y)))], .mouseMoved x y)

/-- The button of a click: the left one unless another is named. -/
def clickedButton (button : String) : Button :=
  match button with
  | "right" => .right
  | "middle" => .middle
  | _ => .left

/-- `tool_mouse_click`, with the times of the press and of the release. -/
def toolMouseClick (button : String) (now later : ℤ) : ToolOutcome :=
  let btn := clickedButton button
  .ok ([.event (.rdevEvent (makeEvent now (.buttonPress btn))),
    .event (.rdevEvent (makeEvent later (.buttonRelease btn)))], .clicked button)

/-- `tool_mouse_scroll`. -/
def toolMouseScroll (delta : ℤ) (now : ℤ) : ToolOutcome :=
  .ok ([.event (.rdevEvent (makeEvent now (.wheel 0 delta)))], .scrolled delta)

/-- The consumer-control code of a media action. -/
def mediaCode (action : String) : Option UInt32 :=
  match action with
  | "play_pause" => some 0xCD
  | "next_track" => some 0xB5
  | "prev_track" => some 0xB6
  | "volume_up" => some 0xE9
  | "volume_down" => some 0xEA
  | "mute_toggle" => some 0xE2
  | "brightness_up" => some 0x6F
  | "brightness_down" => some 0x70
  | _ => none

/-- `tool_media_control`. -/
def toolMediaControl (action : String) : ToolOutcome :=
  match mediaCode action with
  | none => .error (invalidParams s!"unknown action: {action}")
  | some code => .ok ([.event (.consumerControl code)], .media action)

/-! ## Calls -/

/-- A call of one of these tools with its arguments, as `tools_call` has read them. -/
inductive ToolCall where
  | typeText (text : String)
  | pressKey (key : String)
  | mouseMove (x y : ℚ)
  | mouseClick (button : String)
  /-- The 64-bit argument, which `tools_call` narrows. -/
  | mouseScroll (delta : ℤ)
  | mediaControl (action : String)

/-- The times at which a call makes its events. -/
structure Clock where
  now : ℤ
  later : ℤ

/-- The branch of `tools_call`. -/
def ToolCall.run (clock : Clock) : ToolCall → ToolOutcome
  | .typeText text => toolTypeText text
  | .pressKey key => toolPressKey key
  | .mouseMove x y => toolMouseMove x y clock.now
  | .mouseClick button => toolMouseClick button clock.now clock.later
  | .mouseScroll delta => toolMouseScroll (asI32 delta) clock.now
  | .mediaControl action => toolMediaControl action

/-- What a call sends. A call that is rejected sends nothing. -/
def ToolCall.sends (clock : Clock) (c : ToolCall) : List ChannelSend :=
  match c.run clock with
  | .ok (sends, _) => sends
  | .error _ => []

namespace ChannelSend

/-- The payloads it is sent to the device as. -/
def payloads : ChannelSend → List EncryptedData
  | .command cmd => commandPayloads cmd
  | .event input => inputPayloads input

/-- It goes to the input channel. -/
def isEvent : ChannelSend → Bool
  | .event _ => true
  | .command _ => false

end ChannelSend

namespace ToolCall

/-- The payloads a call is sent to the device as. -/
def payloads (c : ToolCall) : List EncryptedData :=
  (c.sends ⟨0, 0⟩).flatMap ChannelSend.payloads

/-- The payloads do not depend on when the call is made. -/
theorem payloads_sends (c : ToolCall) (clock : Clock) :
    (c.sends clock).flatMap ChannelSend.payloads = c.payloads := by
  cases c with
  | typeText | mouseMove | mouseClick | mouseScroll => rfl
  | pressKey key =>
    simp only [payloads, sends, run, toolPressKey]
  | mediaControl action =>
    simp only [payloads, sends, run, toolMediaControl]

/-- Whatever a call sends goes to one channel. -/
theorem sends_oneChannel (c : ToolCall) (clock : Clock) :
    ∃ events, ∀ x ∈ c.sends clock, x.isEvent = events := by
  cases c with
  | typeText text => exact ⟨false, fun x hx => by rw [List.mem_singleton.mp hx]; rfl⟩
  | mouseMove x y => exact ⟨true, fun x hx => by rw [List.mem_singleton.mp hx]; rfl⟩
  | mouseScroll delta => exact ⟨true, fun x hx => by rw [List.mem_singleton.mp hx]; rfl⟩
  | mouseClick button =>
    refine ⟨true, fun x hx => ?_⟩
    rcases List.mem_pair.mp hx with rfl | rfl <;> rfl
  | pressKey key =>
    refine ⟨true, fun x hx => ?_⟩
    cases hkey : parseKeyCombo key with
    | none => simp [sends, run, toolPressKey, hkey] at hx
    | some report =>
      simp only [sends, run, toolPressKey, hkey, List.mem_singleton] at hx
      rw [hx]
      rfl
  | mediaControl action =>
    refine ⟨true, fun x hx => ?_⟩
    cases hcode : mediaCode action with
    | none => simp [sends, run, toolMediaControl, hcode] at hx
    | some code =>
      simp only [sends, run, toolMediaControl, hcode, List.mem_singleton] at hx
      rw [hx]
      rfl

end ToolCall

end Mcp

end ToothPaste
