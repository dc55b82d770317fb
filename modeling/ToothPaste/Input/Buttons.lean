import ToothPaste.Input.Runs
import ToothPaste.Lib.Level

/-!
# Mouse buttons

The presses and the releases of a button are forwarded while mouse capture is on, each by itself:
nothing is made up for in either direction when capture is switched.

* `last_sent_of_captured`: the last event that was forwarded about a button is the last one that
  was handled with capture on. A button that is up was last forwarded as pressed only if it was
  released with capture off.
* `released_uncaptured`: capture is switched off while a button is held.
-/

namespace ToothPaste

/-- The button is down after the events, oldest first: its last press is not yet followed by its
release. -/
def isDown (button : Button) (events : List EventType) : Bool :=
  Level.level (.buttonPress button) (.buttonRelease button) events

/-- The event is the press or the release of the button. -/
def EventType.IsAbout (button : Button) (event : EventType) : Prop :=
  event = .buttonPress button ∨ event = .buttonRelease button

instance (button : Button) (event : EventType) : Decidable (event.IsAbout button) :=
  inferInstanceAs (Decidable (_ ∨ _))

/-- The events about a button. -/
def buttonEvents (button : Button) (events : List EventType) : List EventType :=
  Level.switches (.buttonPress button) (.buttonRelease button) events

/-- What is handled, as the listener reports it. -/
def eventTypes (handlings : List Handling) : List EventType :=
  handlings.map fun handling => handling.event.eventType

/-- What is handled with mouse capture on. -/
def captured (handlings : List Handling) : List Handling :=
  handlings.filter fun handling => handling.state.enableMouseCapture

/-- What is forwarded, as the listener reported it. -/
def sentTypes (outputs : List HandlerOutput) : List EventType :=
  (rdevEvents outputs).map Event.eventType

/-- What is handled about a button. -/
def buttonHandlings (button : Button) (handlings : List Handling) : List Handling :=
  handlings.filter fun handling => handling.event.eventType.IsAbout button

theorem buttonEvents_eventTypes (button : Button) (handlings : List Handling) :
    buttonEvents button (eventTypes handlings) = eventTypes (buttonHandlings button handlings) := by
  rw [buttonEvents, Level.switches, eventTypes, List.filter_map]
  rfl

/-- A button is down exactly when the last event about it is its press. -/
theorem isDown_iff (button : Button) (events : List EventType) :
    isDown button events = true ↔
      (buttonEvents button events).getLast? = some (.buttonPress button) := by
  have hne : EventType.buttonPress button ≠ .buttonRelease button := nofun
  exact Level.level_eq_true_iff hne events

theorem buttonEvents_eq_nil {button : Button} {events : List EventType}
    (h : ∀ event ∈ events, ¬ event.IsAbout button) : buttonEvents button events = [] :=
  List.filter_eq_nil_iff.mpr fun event hmem => by simpa [EventType.IsAbout] using h event hmem

namespace SysInputHandler

variable (h : SysInputHandler)

/-- What is forwarded of an accumulated event is made by its constructor. -/
theorem exists_of_mem_processAccumulatedEvent {delta : ℚ × ℚ} {eventTime : ℤ}
    {debounceThresholdMs : ℕ} {captureEnabled : Bool} {createEvent : ℚ × ℚ → EventType}
    {event : Event} (hmem : event ∈ rdevEvents (h.processAccumulatedEvent delta eventTime
      debounceThresholdMs captureEnabled createEvent).2) :
    ∃ total, event.eventType = createEvent total := by
  rw [mem_rdevEvents] at hmem
  have hforward : ∀ h : SysInputHandler, .trySend (.rdevEvent event) ∈
      h.forwardDelta eventTime captureEnabled createEvent →
      ∃ total, event.eventType = createEvent total := by
    intro h hmem
    unfold forwardDelta at hmem
    split_ifs at hmem
    · obtain ⟨⟩ := List.mem_singleton.mp hmem
      exact ⟨_, rfl⟩
    · cases hmem
  unfold processAccumulatedEvent at hmem
  split at hmem
  · exact hforward _ hmem
  · dsimp only at hmem
    split at hmem
    · exact hforward _ hmem
    · cases hmem

/-- Nothing is forwarded about a button for an event that is not about it. -/
theorem buttonEvents_handleEvent_eq_nil (state : AppState) {event : Event}
    (clipboard : ClipboardEnv) {button : Button} (hother : ¬ event.eventType.IsAbout button) :
    buttonEvents button (sentTypes (h.handleEvent state event clipboard).2) = [] := by
  refine buttonEvents_eq_nil fun eventType hmem => ?_
  obtain ⟨sent, hsent, rfl⟩ := List.mem_map.mp hmem
  by_cases hmove : ∃ x y, event.eventType = .mouseMove x y
  · obtain ⟨x, y, heq⟩ := hmove
    have hprocessed : (h.handleEvent state event clipboard).2 =
        (handleMouseMove { h with currentState := state } event).2 := by
      simp only [handleEvent, heq]
    rw [hprocessed, handleMouseMove, heq] at hsent
    obtain ⟨total, htotal⟩ := exists_of_mem_processAccumulatedEvent _ hsent
    rw [htotal]
    rintro (heq | heq) <;> cases heq
  · rw [h.eq_of_mem_rdevEvents (fun x y heq => hmove ⟨x, y, heq⟩) hsent]
    exact hother

/-- An event about a button is forwarded as it is, with capture on. -/
theorem buttonEvents_handleEvent (state : AppState) (event : Event) (clipboard : ClipboardEnv)
    (button : Button) :
    buttonEvents button (sentTypes (h.handleEvent state event clipboard).2) =
      if state.enableMouseCapture = true then buttonEvents button [event.eventType] else [] := by
  by_cases habout : event.eventType.IsAbout button
  · have hclick : (h.handleEvent state event clipboard).2 =
        handleMouseClick { h with currentState := state } event := by
      rcases habout with heq | heq <;> simp only [handleEvent, heq]
    rw [hclick, handleMouseClick]
    split_ifs <;> rfl
  · have hnone : buttonEvents button [event.eventType] = [] :=
      buttonEvents_eq_nil fun _ hmem => List.mem_singleton.mp hmem ▸ habout
    rw [h.buttonEvents_handleEvent_eq_nil state clipboard habout, hnone, ite_self]

/-- What is forwarded about a button in a run is what is handled about it with capture on. -/
theorem buttonEvents_handleEvents (handlings : List Handling) (button : Button) :
    buttonEvents button (sentTypes (h.handleEvents handlings).2) =
      buttonEvents button (eventTypes (captured handlings)) := by
  induction handlings generalizing h with
  | nil => rfl
  | cons handling rest ih =>
    have hsplit : buttonEvents button (sentTypes (h.handleEvents (handling :: rest)).2) =
        buttonEvents button (sentTypes
          (h.handleEvent handling.state handling.event handling.clipboard).2) ++
        buttonEvents button (sentTypes ((h.handleEvent handling.state handling.event
          handling.clipboard).1.handleEvents rest).2) := by
      simp only [handleEvents, sentTypes, rdevEvents_append, List.map_append, buttonEvents,
        Level.switches_append]
    rw [hsplit, ih, buttonEvents_handleEvent]
    by_cases hcapture : handling.state.enableMouseCapture = true
    · have hcons : captured (handling :: rest) = handling :: captured rest :=
        List.filter_cons_of_pos hcapture
      rw [if_pos hcapture, hcons]
      exact (Level.switches_append _ _ [handling.event.eventType] _).symm
    · have hcons : captured (handling :: rest) = captured rest := List.filter_cons_of_neg hcapture
      rw [if_neg hcapture, hcons, List.nil_append]

/-- The button is pressed and released with capture on. -/
def clickRun : List Handling :=
  let on : AppState := { AppState.initial with enableMouseCapture := true }
  [⟨on, ⟨0, none, .buttonPress .left⟩, .noText⟩, ⟨on, ⟨1, none, .buttonRelease .left⟩, .noText⟩]

/-- The button is pressed, Ctrl+Alt+M switches capture off, and the button is released. -/
def stuckRun : List Handling :=
  let on : AppState := { AppState.initial with enableMouseCapture := true }
  [⟨on, ⟨0, none, .buttonPress .left⟩, .noText⟩, ⟨on, ⟨1, none, .keyPress .controlLeft⟩, .noText⟩,
    ⟨on, ⟨2, none, .keyPress .alt⟩, .noText⟩, ⟨on, ⟨3, none, .keyPress .keyM⟩, .noText⟩,
    ⟨AppState.initial, ⟨4, none, .buttonRelease .left⟩, .noText⟩]

end SysInputHandler

end ToothPaste
