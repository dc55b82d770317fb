import ToothPaste.Lib.History
import ToothPaste.Service.Hotkeys

/-!
# One toggle for each press

The handler on its own: the events are delivered to it one after the other, and nobody else writes
the published state. A keyboard that repeats a held key delivers its `KeyPress` again and again, and
the handler does not look whether the key is already down.

* `toggles_once_iff`: in every sequence of events, the flags are flipped exactly at the fresh
  presses of their hotkeys, and nothing else of the state changes, exactly when no hotkey is
  repeated.
* `repeated_hotkey_flips_back`: a repeated Ctrl+Alt+C switches key capture off again.
-/

namespace ToothPaste

open SysInputHandler (ClipboardEnv isHeld hotkeyFlag SendsNoState)
open Service (ModifiersHeld)

/-- The handler and the published state; `panicked` once the listener's thread is gone. -/
structure Listening where
  handler : SysInputHandler
  appState : AppState
  panicked : Bool

/-- What the watch channel holds after the outputs. -/
def published (app : AppState) : List HandlerOutput → AppState
  | [] => app
  | .updateState newState :: outputs => published newState outputs
  | .trySend _ :: outputs | .panic :: outputs => published app outputs

/-- An event is delivered and handled to its end. -/
def Listening.deliver (l : Listening) (event : Event) (clipboard : ClipboardEnv) : Listening :=
  let handled := l.handler.handleEvent l.appState event clipboard
  { handler := handled.1
    appState := published l.appState handled.2
    panicked := .panic ∈ handled.2 }

/-- The handler, started with any state, and the events that are delivered to it. -/
def listening : Transition.System Listening (Event × ClipboardEnv) where
  Init l := ∃ app now, l = ⟨.new app now, app, false⟩
  step l a := if l.panicked = true then none else some (l.deliver a.1 a.2)

/-- An event that has been delivered, with the published state before and after it. -/
structure Delivery where
  before : AppState
  event : EventType
  after : AppState

/-- The handler with the events delivered so far. -/
def withDeliveries : Transition.System (Listening × List Delivery) (Event × ClipboardEnv) :=
  listening.withHistory [] fun deliveries l a l' =>
    deliveries ++ [⟨l.appState, a.1.eventType, l'.appState⟩]

/-! ## What a press does -/

instance (events : List EventType) : Decidable (ModifiersHeld events) :=
  inferInstanceAs (Decidable (_ ∧ _))

/-- The flag that an event flips, whether or not its key is down already. -/
def hotkeyOf (earlier : List EventType) : EventType → Option CaptureFlag
  | .keyPress key => if ModifiersHeld earlier then hotkeyFlag key else none
  | _ => none

/-- The flag that a physical press flips: that of a hotkey whose key was not already down. -/
def freshHotkey (earlier : List EventType) : EventType → Option CaptureFlag
  | .keyPress key =>
    if isHeld key earlier = false ∧ ModifiersHeld earlier then hotkeyFlag key else none
  | _ => none

/-- The state with the flag, if there is one, flipped. -/
def AppState.toggleOpt (app : AppState) : Option CaptureFlag → AppState
  | some flag => app.toggle flag
  | none => app

/-- The event changes the published state as the physical press that it is does, and no more. -/
def TogglesOnce (earlier : List Delivery) (d : Delivery) : Prop :=
  d.after = d.before.toggleOpt (freshHotkey (earlier.map Delivery.event) d.event)

instance (earlier : List Delivery) (d : Delivery) : Decidable (TogglesOnce earlier d) :=
  inferInstanceAs (Decidable (_ = _))

/-- The event is the press of a hotkey's key that is already down, with the modifiers held. -/
def RepeatsHotkey (earlier : List EventType) : EventType → Prop
  | .keyPress key =>
    (hotkeyFlag key).isSome = true ∧ isHeld key earlier = true ∧ ModifiersHeld earlier
  | _ => False

instance (earlier : List EventType) : ∀ event, Decidable (RepeatsHotkey earlier event)
  | .keyPress _ => inferInstanceAs (Decidable (_ ∧ _ ∧ _))
  | .keyRelease _ | .buttonPress _ | .buttonRelease _ | .mouseMove _ _ | .wheel _ _ =>
    inferInstanceAs (Decidable False)

/-- A toggle changes the state. -/
theorem AppState.toggle_ne (app : AppState) (flag : CaptureFlag) : app.toggle flag ≠ app := by
  intro h
  have hflag := app.flag_toggle flag flag
  rw [h, if_pos rfl] at hflag
  exact absurd hflag (Bool.not_ne_self _).symm

/-- An event that is not a repeated hotkey flips what it would flip as a fresh press, and a
repeated one flips its flag again. -/
theorem toggleOpt_hotkeyOf_iff (app : AppState) (earlier : List EventType) (event : EventType) :
    app.toggleOpt (hotkeyOf earlier event) = app.toggleOpt (freshHotkey earlier event) ↔
      ¬ RepeatsHotkey earlier event := by
  cases event with
  | keyPress key =>
    simp only [RepeatsHotkey, hotkeyOf, freshHotkey]
    by_cases hmods : ModifiersHeld earlier
    · cases hflag : hotkeyFlag key with
      | none => simp [hmods]
      | some flag =>
        -- a fresh press flips the flag as well unless the key is already down
        by_cases hheld : isHeld key earlier = true
        · simpa [hmods, hheld, AppState.toggleOpt] using app.toggle_ne flag
        · simp [hmods, hheld]
    · simp [hmods]
  | keyRelease | buttonPress | buttonRelease | mouseMove | wheel =>
    simp [hotkeyOf, freshHotkey, RepeatsHotkey]

/-! ## What the handler does -/

theorem published_of_sendsNoState {outputs : List HandlerOutput} (h : SendsNoState outputs)
    (app : AppState) : published app outputs = app := by
  induction outputs with
  | nil => rfl
  | cons output outputs ih =>
    have hrest : SendsNoState outputs :=
      fun state hmem => h state (List.mem_cons_of_mem _ hmem)
    cases output with
    | updateState newState => exact absurd List.mem_cons_self (h newState)
    | trySend | panic => exact ih hrest

namespace SysInputHandler

variable (h : SysInputHandler)

/-- The modifiers of the hotkeys are held, before and after the press of a key that is none of
them. -/
theorem hotkeyHeld_pressed {key : Key} {flag : CaptureFlag} (hflag : hotkeyFlag key = some flag) :
    (h.pressed key).hotkeyHeld = h.hotkeyHeld := by
  unfold hotkeyFlag at hflag
  split at hflag
  · simp [hotkeyHeld, holds, pressed]
  · simp [hotkeyHeld, holds, pressed]
  · simp [hotkeyHeld, holds, pressed]
  · cases hflag

/-- The flag that the handler flips for an event. -/
def flips : EventType → Option CaptureFlag
  | .keyPress key => if h.hotkeyHeld = true then hotkeyFlag key else none
  | _ => none

/-- The flag of a hotkey is flipped first, and nothing after it changes the state. -/
theorem published_toggle_append (app : AppState) (flag : Option CaptureFlag)
    {rest : List HandlerOutput} (hrest : SendsNoState rest) :
    published app (upToPanic
      (flag.toList.map (fun flag => .updateState (app.toggle flag)) ++ rest)) =
      app.toggleOpt flag := by
  cases flag with
  | none => exact published_of_sendsNoState hrest.upToPanic app
  | some flag => exact published_of_sendsNoState hrest.upToPanic (app.toggle flag)

/-- What is published after a key press. -/
theorem published_keyPress (app : AppState) {event : Event} {key : Key}
    (hevent : event.eventType = .keyPress key) (clipboard : ClipboardEnv) :
    published app (h.handleEvent app event clipboard).2 =
      app.toggleOpt (h.flips event.eventType) := by
  have hflips : (if (pressed { h with currentState := app } key).hotkeyHeld = true then
      (hotkeyFlag key).toList.map fun flag => .updateState (app.toggle flag) else []) =
      (h.flips event.eventType).toList.map fun flag =>
        HandlerOutput.updateState (app.toggle flag) := by
    rw [hevent, flips]
    cases hflag : hotkeyFlag key with
    | none => simp
    | some flag =>
      rw [hotkeyHeld_pressed _ hflag]
      show (if h.hotkeyHeld = true then _ else _) = _
      split_ifs <;> rfl
  rw [handleEvent_keyPress h app hevent, hflips, List.append_assoc]
  exact published_toggle_append app _
    ((handleClipboardEvent_sendsNoState _ key clipboard).append
      (forwardKey_sendsNoState _ event key))

/-- What is published after an event: a key press flips the flag of its hotkey, and nothing else
changes the state. -/
theorem published_handleEvent (app : AppState) (event : Event) (clipboard : ClipboardEnv) :
    published app (h.handleEvent app event clipboard).2 =
      app.toggleOpt (h.flips event.eventType) := by
  obtain ⟨time, name, eventType⟩ := event
  cases eventType with
  | keyPress key => exact h.published_keyPress app rfl clipboard
  | keyRelease key => rfl
  -- the mouse sends input events only
  | mouseMove x y =>
    exact published_of_sendsNoState
      (handleMouseMove_sendsNoState { h with currentState := app } _).2 app
  | buttonPress button | buttonRelease button =>
    exact published_of_sendsNoState (handleMouseClick_sendsNoState _ _) app
  | wheel deltaX deltaY => rfl

end SysInputHandler

/-! ## Runs -/

/-- What is known of the deliveries so far: the handler knows the keys that are down, and each
event flipped the flag of its hotkey. -/
structure ListensTo (l : Listening) (deliveries : List Delivery) : Prop where
  keys : ∀ key, key ∈ l.handler.pressedKeys ↔
    isHeld key (deliveries.map Delivery.event) = true
  effects : History.Each (fun earlier d =>
    d.after = d.before.toggleOpt (hotkeyOf (earlier.map Delivery.event) d.event)) deliveries

theorem ListensTo.hotkeyHeld_iff {l : Listening} {deliveries : List Delivery}
    (h : ListensTo l deliveries) :
    l.handler.hotkeyHeld = true ↔ ModifiersHeld (deliveries.map Delivery.event) := by
  simp only [SysInputHandler.hotkeyHeld, SysInputHandler.holds, Bool.and_eq_true,
    decide_eq_true_eq, h.keys, ModifiersHeld]

/-- One delivery. -/
theorem ListensTo.deliver {l : Listening} {deliveries : List Delivery}
    (h : ListensTo l deliveries) (event : Event) (clipboard : ClipboardEnv) :
    ListensTo (l.deliver event clipboard) (deliveries ++
      [⟨l.appState, event.eventType, (l.deliver event clipboard).appState⟩]) where
  keys key := by
    rw [Listening.deliver, SysInputHandler.mem_handleEvent_pressedKeys, List.map_append,
      List.map_singleton, isHeld, Level.level_concat]
    have hkeys := h.keys key
    rw [isHeld] at hkeys
    simp only [hkeys, Bool.decide_eq_true]
  effects := by
    refine (History.each_concat _ _).mpr ⟨h.effects, ?_⟩
    show published l.appState _ = _
    rw [SysInputHandler.published_handleEvent]
    cases hevent : event.eventType with
    | keyPress key => simp only [SysInputHandler.flips, hotkeyOf, h.hotkeyHeld_iff]
    | keyRelease | buttonPress | buttonRelease | mouseMove | wheel => rfl

theorem listensTo_of_reachable {p : Listening × List Delivery} (h : withDeliveries.Reachable p) :
    ListensTo p.1 p.2 := by
  refine h.invariant_withHistory ?_ ?_
  · rintro _ ⟨app, now, rfl⟩
    exact ⟨fun key => by simp [SysInputHandler.new, isHeld], History.each_nil⟩
  · intro l deliveries a l' hl _ hstep
    simp only [listening] at hstep
    split_ifs at hstep
    obtain rfl := Option.some.inj hstep
    exact hl.deliver a.1 a.2

/-- For every sequence of events that is delivered: every event flips the flag that it flips as a
fresh press of a hotkey and leaves the rest of the state as it is, exactly when no event of the
sequence repeats a hotkey. -/
theorem toggles_once_iff {p : Listening × List Delivery} (h : withDeliveries.Reachable p) :
    History.Each TogglesOnce p.2 ↔
      History.Each (fun earlier event => ¬ RepeatsHotkey earlier event)
        (p.2.map Delivery.event) := by
  rw [History.each_map]
  have heffects := (listensTo_of_reachable h).effects
  refine History.Each.iff_congr (heffects.mono fun earlier d heffect => ?_)
  rw [TogglesOnce, heffect]
  exact toggleOpt_hotkeyOf_iff d.before _ d.event

/-- The events are delivered, to a handler started with the initial state and a clipboard that
holds no text. -/
def delivered (events : List EventType) : Option (Listening × List Delivery) :=
  withDeliveries.replay (fun _ _ => True) (⟨.new .initial 0, .initial, false⟩, [])
    (events.map fun eventType => (⟨0, none, eventType⟩, .noText))

theorem reachable_of_delivered {events : List EventType} {p : Listening × List Delivery}
    (hp : delivered events = some p) : withDeliveries.Reachable p :=
  .of_replay _ (.init ⟨⟨_, 0, rfl⟩, rfl⟩) hp

/-- Ctrl+Alt+C, with the C released and pressed again. -/
theorem toggles_once_sample : ∃ p : Listening × List Delivery,
    p.2.map Delivery.event = [.keyPress .controlLeft, .keyPress .alt, .keyPress .keyC,
      .keyRelease .keyC, .keyPress .keyC] ∧ History.Each TogglesOnce p.2 := by
  have hrun : (delivered [.keyPress .controlLeft, .keyPress .alt, .keyPress .keyC,
      .keyRelease .keyC, .keyPress .keyC]).map (fun p => p.2.map Delivery.event) =
      some [.keyPress .controlLeft, .keyPress .alt, .keyPress .keyC,
        .keyRelease .keyC, .keyPress .keyC] := by decide +kernel
  obtain ⟨p, hp, hevents⟩ := Option.map_eq_some_iff.mp hrun
  refine ⟨p, hevents, (toggles_once_iff (reachable_of_delivered hp)).mpr ?_⟩
  rw [hevents]
  decide +kernel

/-- A keyboard repeats the C of a held Ctrl+Alt+C, and key capture is off again. -/
theorem repeated_hotkey_flips_back :
    ¬ ∀ p, withDeliveries.Reachable p → History.Each TogglesOnce p.2 := by
  intro hclaim
  have hrun : (delivered [.keyPress .controlLeft, .keyPress .alt, .keyPress .keyC,
      .keyPress .keyC]).map (fun p => (p.2.map fun d => d.after.enableKeyCapture,
        decide (History.Each TogglesOnce p.2))) = some ([false, false, true, false], false) := by
    decide +kernel
  obtain ⟨p, hp, hfacts⟩ := Option.map_eq_some_iff.mp hrun
  have honce := hclaim p (reachable_of_delivered hp)
  rw [decide_eq_true honce] at hfacts
  exact absurd (Prod.mk.inj hfacts).2 (by decide)

end ToothPaste
