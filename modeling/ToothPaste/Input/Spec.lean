import ToothPaste.Input.Handler

/-!
# What the input handler sends

An event makes the handler send a whole application state at most once, before anything else it
sends, and this state is the one it read when it started, with one capture flag flipped
(`handleEvent_sendsToggle`).
-/

namespace ToothPaste

namespace SysInputHandler

variable (h : SysInputHandler)

/-! ## Hotkeys -/

/-- The flag a hotkey flips. -/
def hotkeyFlag : Key → Option CaptureFlag
  | .keyC => some .key
  | .keyV => some .clipboard
  | .keyM => some .mouse
  | _ => none

/-- The modifiers of the hotkeys are held. -/
def hotkeyHeld : Bool := h.holds .controlLeft .controlRight && h.holds .alt .altGr

/-- A hotkey is its key with the modifiers held. -/
theorem handleDisableEvent_eq (targetKey : Key) (flag : CaptureFlag) (key : Key) :
    h.handleDisableEvent targetKey flag key =
      if key = targetKey ∧ h.hotkeyHeld = true then [.updateState (h.currentState.toggle flag)]
      else [] := by
  simp [handleDisableEvent, isComboActive, hotkeyHeld]

/-- A key is the key of one hotkey at most. -/
theorem hotkeys_eq (key : Key) :
    h.handleDisableKeyCaptureEvent key ++ h.handleDisableClipboardCaptureEvent key ++
        h.handleDisableMouseCaptureEvent key =
      if h.hotkeyHeld = true then
        (hotkeyFlag key).toList.map fun flag => .updateState (h.currentState.toggle flag)
      else [] := by
  simp only [handleDisableKeyCaptureEvent, handleDisableClipboardCaptureEvent,
    handleDisableMouseCaptureEvent, handleDisableEvent_eq]
  cases h.hotkeyHeld with
  | false => simp
  | true =>
    -- the three hotkeys have three keys, so that two of the lists are empty
    by_cases hC : key = .keyC
    · subst hC; rfl
    by_cases hV : key = .keyV
    · subst hV; rfl
    by_cases hM : key = .keyM
    · subst hM; rfl
    · have hnone : hotkeyFlag key = none := by
        unfold hotkeyFlag
        split <;> first | contradiction | rfl
      simp [hC, hV, hM, hnone]

/-- What is done up to a panic is done first. -/
theorem isPrefix_upToPanic (outputs : List HandlerOutput) : upToPanic outputs <+: outputs := by
  induction outputs with
  | nil => exact List.prefix_rfl
  | cons output outputs ih =>
    cases output with
    | panic => exact List.cons_prefix_cons.mpr ⟨rfl, List.nil_prefix⟩
    | updateState | trySend => exact List.cons_prefix_cons.mpr ⟨rfl, ih⟩

/-! ## States sent -/

/-- No whole state is sent. -/
def SendsNoState (outputs : List HandlerOutput) : Prop :=
  ∀ newState, .updateState newState ∉ outputs

/-- A whole state is sent once at most, first of all, and it is `state` with one flag flipped. -/
def SendsToggle (state : AppState) (outputs : List HandlerOutput) : Prop :=
  ∃ rest, SendsNoState rest ∧
    (outputs = rest ∨ ∃ flag, outputs = .updateState (state.toggle flag) :: rest)

theorem sendsNoState_nil : SendsNoState [] := fun _ => List.not_mem_nil

theorem sendsNoState_trySend (event : InputEvent) : SendsNoState [.trySend event] := by
  simp [SendsNoState]

/-- Two parts that send no state. -/
theorem SendsNoState.append {xs ys : List HandlerOutput} (hx : SendsNoState xs)
    (hy : SendsNoState ys) : SendsNoState (xs ++ ys) := by
  intro newState hmem
  rcases List.mem_append.mp hmem with hmem | hmem
  · exact hx newState hmem
  · exact hy newState hmem

/-- What is done up to a panic sends no other state. -/
theorem SendsNoState.upToPanic {outputs : List HandlerOutput} (h : SendsNoState outputs) :
    SendsNoState (upToPanic outputs) :=
  fun new hmem => h new ((isPrefix_upToPanic outputs).subset hmem)

/-- Sending no state is sending one at most. -/
theorem SendsNoState.sendsToggle {outputs : List HandlerOutput} (h : SendsNoState outputs)
    (state : AppState) : SendsToggle state outputs :=
  ⟨outputs, h, .inl rfl⟩

/-- The clipboard sends no state. -/
theorem handleClipboardEvent_sendsNoState (key : Key) (clipboard : ClipboardEnv) :
    SendsNoState (h.handleClipboardEvent key clipboard) := by
  unfold handleClipboardEvent
  split_ifs
  · cases clipboard with
    | unavailable => simp [SendsNoState]
    | noText => exact sendsNoState_nil
    | text contents => exact sendsNoState_trySend _
  · exact sendsNoState_nil

/-- A key that is forwarded sends no state. -/
theorem forwardKey_sendsNoState (event : Event) (key : Key) :
    SendsNoState (h.forwardKey event key) := by
  unfold forwardKey
  split
  · dsimp only
    split
    · split
      · exact sendsNoState_trySend _
      · exact sendsNoState_nil
    · split
      · exact sendsNoState_trySend _
      · exact sendsNoState_nil
  · exact sendsNoState_nil

/-- A motion that is forwarded sends no state. -/
theorem forwardDelta_sendsNoState (eventTime : ℤ) (captureEnabled : Bool)
    (createEvent : ℚ × ℚ → EventType) :
    SendsNoState (h.forwardDelta eventTime captureEnabled createEvent) := by
  unfold forwardDelta
  split_ifs
  · exact sendsNoState_trySend _
  · exact sendsNoState_nil

/-- A click sends no state. -/
theorem handleMouseClick_sendsNoState (event : Event) :
    SendsNoState (h.handleMouseClick event) := by
  unfold handleMouseClick
  split_ifs
  · exact sendsNoState_trySend _
  · exact sendsNoState_nil

/-- Accumulating a motion sends no state and keeps the one that was read. -/
theorem processAccumulatedEvent_sendsNoState (delta : ℚ × ℚ) (eventTime : ℤ)
    (debounceThresholdMs : ℕ) (captureEnabled : Bool) (createEvent : ℚ × ℚ → EventType) :
    (h.processAccumulatedEvent delta eventTime debounceThresholdMs captureEnabled
      createEvent).1.currentState = h.currentState ∧
    SendsNoState (h.processAccumulatedEvent delta eventTime debounceThresholdMs captureEnabled
      createEvent).2 := by
  unfold processAccumulatedEvent
  split
  · exact ⟨rfl, forwardDelta_sendsNoState _ _ _ _⟩
  · dsimp only
    split
    · exact ⟨rfl, forwardDelta_sendsNoState _ _ _ _⟩
    · exact ⟨rfl, sendsNoState_nil⟩

/-- A movement changes what is accumulated and sends no state. -/
theorem handleMouseMove_sendsNoState (event : Event) :
    (h.handleMouseMove event).1.currentState = h.currentState ∧
    SendsNoState (h.handleMouseMove event).2 := by
  unfold handleMouseMove
  split
  · exact processAccumulatedEvent_sendsNoState ..
  · exact ⟨rfl, sendsNoState_nil⟩

/-- A key press that is a hotkey sends the toggled state before anything else. -/
theorem handleKeyboardEvent_sendsToggle (event : Event) (clipboard : ClipboardEnv) :
    (h.handleKeyboardEvent event clipboard).1.currentState = h.currentState ∧
    SendsToggle h.currentState (h.handleKeyboardEvent event clipboard).2 := by
  unfold handleKeyboardEvent
  split
  · next key _ =>
    refine ⟨rfl, ?_⟩
    have hrest : ∀ h' : SysInputHandler,
        SendsNoState (h'.handleClipboardEvent key clipboard ++ h'.forwardKey event key) :=
      fun h' => (h'.handleClipboardEvent_sendsNoState key clipboard).append
        (h'.forwardKey_sendsNoState event key)
    dsimp only
    rw [hotkeys_eq, List.append_assoc]
    split_ifs
    · cases hotkeyFlag key with
      | none => exact (hrest _).upToPanic.sendsToggle _
      -- the flipped state goes first, and nothing after it is a state
      | some flag => exact ⟨_, (hrest _).upToPanic, .inr ⟨flag, rfl⟩⟩
    · exact (hrest _).upToPanic.sendsToggle _
  · exact ⟨rfl, sendsNoState_nil.sendsToggle _⟩
  · exact ⟨rfl, sendsNoState_nil.sendsToggle _⟩

/-- An event is handled with the state read at its start, and sends back that state with one flag
flipped at most. -/
theorem handleEvent_sendsToggle (state : AppState) (event : Event) (clipboard : ClipboardEnv) :
    (h.handleEvent state event clipboard).1.currentState = state ∧
    SendsToggle state (h.handleEvent state event clipboard).2 := by
  unfold handleEvent
  cases event.eventType with
  | keyPress key | keyRelease key => exact handleKeyboardEvent_sendsToggle _ event clipboard
  | mouseMove x y =>
    obtain ⟨hstate, hsends⟩ := handleMouseMove_sendsNoState { h with currentState := state } event
    exact ⟨hstate, hsends.sendsToggle state⟩
  | buttonPress button | buttonRelease button =>
    exact ⟨rfl, (handleMouseClick_sendsNoState _ event).sendsToggle state⟩
  | wheel deltaX deltaY => exact ⟨rfl, sendsNoState_nil.sendsToggle state⟩

end SysInputHandler

end ToothPaste
