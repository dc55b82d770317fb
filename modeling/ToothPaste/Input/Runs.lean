import ToothPaste.Input.Spec

/-!
# Runs of the input handler

The handler handles one event after the other, each with what the watch channel and the clipboard
hold at that time. `rdevEvents` picks what it forwards as events of the input listener: of a key or
a button, the event itself (`eq_of_mem_rdevEvents`).
-/

namespace ToothPaste

/-- An event as it is handled, with what the watch channel and the clipboard hold at that time. -/
structure Handling where
  state : AppState
  event : Event
  clipboard : SysInputHandler.ClipboardEnv

/-- The event that is forwarded as an event of the listener. -/
def HandlerOutput.rdevEvent : HandlerOutput → Option Event
  | .trySend (.rdevEvent event) => some event
  | _ => none

/-- The events that are forwarded as events of the listener. -/
def rdevEvents (outputs : List HandlerOutput) : List Event :=
  outputs.filterMap HandlerOutput.rdevEvent

@[simp]
theorem rdevEvents_append (outputs outputs' : List HandlerOutput) :
    rdevEvents (outputs ++ outputs') = rdevEvents outputs ++ rdevEvents outputs' :=
  List.filterMap_append

theorem mem_rdevEvents {outputs : List HandlerOutput} {event : Event} :
    event ∈ rdevEvents outputs ↔ .trySend (.rdevEvent event) ∈ outputs := by
  rw [rdevEvents, List.mem_filterMap]
  constructor
  · rintro ⟨output, hmem, hevent⟩
    unfold HandlerOutput.rdevEvent at hevent
    split at hevent
    · exact Option.some.inj hevent ▸ hmem
    · cases hevent
  · exact fun hmem => ⟨_, hmem, rfl⟩

namespace SysInputHandler

variable (h : SysInputHandler)

/-- The events are handled one after the other. -/
def handleEvents (h : SysInputHandler) : List Handling → SysInputHandler × List HandlerOutput
  | [] => (h, [])
  | handling :: rest =>
    let handled := h.handleEvent handling.state handling.event handling.clipboard
    let later := handleEvents handled.1 rest
    (later.1, handled.2 ++ later.2)

/-- A hotkey forwards no event. -/
theorem not_mem_handleDisableEvent (targetKey : Key) (flag : CaptureFlag) (key : Key)
    (event : InputEvent) : .trySend event ∉ h.handleDisableEvent targetKey flag key := by
  rw [handleDisableEvent_eq]
  split_ifs <;> simp

/-- The clipboard is not forwarded as an event of the listener. -/
theorem not_mem_handleClipboardEvent (key : Key) (clipboard : ClipboardEnv) (event : Event) :
    .trySend (.rdevEvent event) ∉ h.handleClipboardEvent key clipboard := by
  unfold handleClipboardEvent
  split_ifs
  · cases clipboard <;> simp
  · exact List.not_mem_nil

/-- A key that goes out as an event goes out as its own event. -/
theorem eq_of_mem_forwardKey {event event' : Event} {key : Key}
    (hmem : .trySend (.rdevEvent event') ∈ h.forwardKey event key) : event' = event := by
  unfold forwardKey at hmem
  split at hmem
  · dsimp only at hmem
    split_ifs at hmem
    -- a report
    · split at hmem <;> simp at hmem
    · simpa using hmem
    · cases hmem
  · cases hmem

/-- What is forwarded of an event other than a movement is the event itself. -/
theorem eq_of_mem_rdevEvents {state : AppState} {event event' : Event} {clipboard : ClipboardEnv}
    (hevent : ∀ x y, event.eventType ≠ .mouseMove x y)
    (hmem : event' ∈ rdevEvents (h.handleEvent state event clipboard).2) : event' = event := by
  rw [mem_rdevEvents] at hmem
  obtain ⟨time, name, eventType⟩ := event
  cases eventType with
  | keyPress key =>
    have houtput := (isPrefix_upToPanic _).subset hmem
    simp only [List.mem_append] at houtput
    rcases houtput with (((hhotkey | hhotkey) | hhotkey) | hclipboard) | hkey
    · exact absurd hhotkey (not_mem_handleDisableEvent _ _ _ key _)
    · exact absurd hhotkey (not_mem_handleDisableEvent _ _ _ key _)
    · exact absurd hhotkey (not_mem_handleDisableEvent _ _ _ key _)
    · exact absurd hclipboard (not_mem_handleClipboardEvent _ key clipboard event')
    · exact eq_of_mem_forwardKey _ hkey
  | buttonPress button | buttonRelease button =>
    simp only [handleEvent, handleMouseClick] at hmem
    split_ifs at hmem
    · simpa using hmem
    · cases hmem
  | mouseMove x y => exact absurd rfl (hevent x y)
  | keyRelease | wheel => cases hmem

end SysInputHandler

end ToothPaste
