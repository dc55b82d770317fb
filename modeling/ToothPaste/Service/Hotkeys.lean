import ToothPaste.Lib.Level
import ToothPaste.Service.System

/-!
# Hotkeys and the device

Ctrl+Alt+C, V and M flip a capture flag. The handler goes on after that as for any other key, with
the flags as they were when the event started: with key capture on, a hotkey is sent to the device
as a report, and with clipboard capture on, Ctrl+Alt+V sends the clipboard as well.

* `hotkey_flips_only_iff`: after every sequence of events, a hotkey flips its flag and puts nothing
  in the input channel exactly when what it would send is not captured, or cannot be put there.
* `hotkey_reaches_device`: Ctrl+Alt+C switches key capture on, and a second Ctrl+Alt+C is sent.
-/

namespace ToothPaste

namespace BleTask

variable {SK : Type} (s : BleTask SK)

/-- The places the input channel has left for the senders. -/
def places : ℕ := if s.phase = .stopped then 0 else inputCapacity - s.inputs.length

theorem hasRoom_iff : s.HasRoom ↔ 0 < s.places := by
  unfold HasRoom places
  split_ifs with hstopped
  · exact iff_of_false (fun hroom => hroom.1 hstopped) (lt_irrefl 0)
  · rw [and_iff_right hstopped, Nat.sub_pos_iff_lt]

end BleTask

namespace SysInputHandler

/-- The key is held after the events, oldest first: its last press is not yet followed by its
release. -/
def isHeld (key : Key) (events : List EventType) : Bool :=
  Level.level (.keyPress key) (.keyRelease key) events

/-- What an event does to the keys that are held. -/
theorem mem_handleEvent_pressedKeys (h : SysInputHandler) (state : AppState) (event : Event)
    (clipboard : ClipboardEnv) (key : Key) :
    key ∈ (h.handleEvent state event clipboard).1.pressedKeys ↔
      Level.next (.keyPress key) (.keyRelease key) (key ∈ h.pressedKeys) event.eventType =
        true := by
  obtain ⟨time, name, eventType⟩ := event
  cases eventType with
  | keyPress k | keyRelease k =>
    by_cases hk : key = k
    · simp [handleEvent, handleKeyboardEvent, Level.next, hk]
    · simp [handleEvent, handleKeyboardEvent, Level.next, hk, Ne.symm hk]
  | mouseMove x y =>
    simp only [handleEvent, handleMouseMove, processAccumulatedEvent, Level.next]
    split_ifs <;> simp_all
  | buttonPress | buttonRelease | wheel => simp [handleEvent, Level.next]

/-! ## What is sent -/

/-- The events that are put in the input channel, up to a panic. -/
def sentInputs (outputs : List HandlerOutput) : List InputEvent :=
  (upToPanic outputs).filterMap fun
    | .trySend event => some event
    | _ => none

theorem sentInputs_eq_nil_iff (outputs : List HandlerOutput) :
    sentInputs outputs = [] ↔ ∀ event, .trySend event ∉ upToPanic outputs := by
  rw [sentInputs, List.filterMap_eq_nil_iff]
  constructor
  · intro h event hmem
    cases h _ hmem
  · intro h output hmem
    split
    · exact absurd hmem (h _)
    · rfl

/-! ## The outputs of a hotkey -/

section Outputs

variable (h : SysInputHandler)

/-- The handler in which a key has just been pressed. -/
def pressed (key : Key) : SysInputHandler := { h with pressedKeys := insert key h.pressedKeys }

/-- What a key press does, in the order it does it. -/
theorem handleEvent_keyPress (state : AppState) {event : Event} {key : Key}
    (hevent : event.eventType = .keyPress key) (clipboard : ClipboardEnv) :
    h.handleEvent state event clipboard =
      (pressed { h with currentState := state } key,
        upToPanic ((if (pressed { h with currentState := state } key).hotkeyHeld = true then
            (hotkeyFlag key).toList.map fun flag => .updateState (state.toggle flag)
          else []) ++
          (pressed { h with currentState := state } key).handleClipboardEvent key clipboard ++
          (pressed { h with currentState := state } key).forwardKey event key)) := by
  have hhandled : h.handleEvent state event clipboard =
      (pressed { h with currentState := state } key,
        upToPanic
          ((pressed { h with currentState := state } key).handleDisableKeyCaptureEvent key ++
            (pressed { h with currentState := state } key).handleDisableClipboardCaptureEvent key ++
            (pressed { h with currentState := state } key).handleDisableMouseCaptureEvent key ++
            (pressed { h with currentState := state } key).handleClipboardEvent key clipboard ++
            (pressed { h with currentState := state } key).forwardKey event key)) := by
    simp only [handleEvent, hevent, handleKeyboardEvent]
    rfl
  -- the three hotkey checks are one
  rw [hhandled, hotkeys_eq]
  rfl

theorem pressed_holds {left right : Key} (key : Key) (hholds : h.holds left right = true) :
    (h.pressed key).holds left right = true := by
  simp only [holds, pressed, Finset.mem_insert, decide_eq_true_eq] at hholds ⊢
  exact hholds.imp .inr .inr

/-- What `handle_clipboard_event` sends of the clipboard. -/
def clipboardOutputs : ClipboardEnv → List HandlerOutput
  | .unavailable => [.panic]
  | .noText => []
  | .text contents => [.trySend (.clipboard contents)]

/-- With Ctrl held, the clipboard is sent with clipboard capture on. -/
theorem handleClipboardEvent_of_ctrl (hctrl : h.holds .controlLeft .controlRight = true)
    (key : Key) (clipboard : ClipboardEnv) :
    h.handleClipboardEvent key clipboard =
      if h.currentState.enableClipboardCapture = true ∧ key = .keyV then
        clipboardOutputs clipboard
      else [] := by
  simp only [handleClipboardEvent, hctrl, and_true]
  rfl

/-- A hotkey's key has a code. -/
theorem exists_code_of_hotkeyFlag {key : Key} {flag : CaptureFlag}
    (hflag : hotkeyFlag key = some flag) :
    ∃ code, (keyToHid key).or (keyToAscii key) = some code := by
  unfold hotkeyFlag at hflag
  split at hflag
  · exact ⟨_, rfl⟩
  · exact ⟨_, rfl⟩
  · exact ⟨_, rfl⟩
  · cases hflag

/-- With Ctrl held, a hotkey's key is sent as a report with key capture on. -/
theorem forwardKey_of_ctrl (hctrl : h.holds .controlLeft .controlRight = true) (event : Event)
    {key : Key} {flag : CaptureFlag} (hflag : hotkeyFlag key = some flag) :
    ∃ report, h.forwardKey event key =
      if h.currentState.enableKeyCapture = true then [.trySend (.keycode report)] else [] := by
  obtain ⟨code, hcode⟩ := exists_code_of_hotkeyFlag hflag
  obtain ⟨report, hreport⟩ : ∃ report, buildHidReport
      ⟨true, h.holds .alt .altGr, h.holds .shiftLeft .shiftRight, key⟩ = some report := by
    simp only [buildHidReport, hcode, Option.map_some, Option.some.injEq, exists_eq']
  exact ⟨report, by simp only [forwardKey, hctrl, Bool.true_or, ↓reduceIte, hreport]⟩

/-- What a hotkey does: it flips its flag in the state it read and goes on as any other key
does. -/
theorem handleEvent_hotkey (state : AppState) {event : Event} {key : Key} {flag : CaptureFlag}
    (hevent : event.eventType = .keyPress key) (hflag : hotkeyFlag key = some flag)
    (hheld : h.hotkeyHeld = true) (clipboard : ClipboardEnv) :
    ∃ report, (h.handleEvent state event clipboard).2 =
      .updateState (state.toggle flag) :: upToPanic
        ((if state.enableClipboardCapture = true ∧ key = .keyV then clipboardOutputs clipboard
          else []) ++
        (if state.enableKeyCapture = true then [.trySend (.keycode report)] else [])) := by
  have hholds := Bool.and_eq_true_iff.mp hheld
  have hctrl := pressed_holds { h with currentState := state } key hholds.1
  have halt := pressed_holds { h with currentState := state } key hholds.2
  have hheld' : (pressed { h with currentState := state } key).hotkeyHeld = true := by
    rw [hotkeyHeld, hctrl, halt]
    rfl
  obtain ⟨report, hreport⟩ := forwardKey_of_ctrl _ hctrl event hflag
  refine ⟨report, ?_⟩
  rw [handleEvent_keyPress h state hevent, if_pos hheld', hflag,
    handleClipboardEvent_of_ctrl _ hctrl, hreport]
  rfl

/-- A hotkey sends nothing to the device when neither the clipboard nor the key is captured. -/
theorem sendsNothing_iff (newState : AppState) (sendsClipboard : Prop) [Decidable sendsClipboard]
    (clipboard : ClipboardEnv) (capture : Bool) (report : Bytes) :
    (∀ event, .trySend event ∉ upToPanic (.updateState newState :: upToPanic
      ((if sendsClipboard then clipboardOutputs clipboard else []) ++
        (if capture = true then [.trySend (.keycode report)] else [])))) ↔
      if sendsClipboard then clipboard = .unavailable ∨ clipboard = .noText ∧ capture = false
      else capture = false := by
  by_cases hclipboard : sendsClipboard
  · cases clipboard with
    | unavailable => simp [hclipboard, clipboardOutputs, upToPanic]
    | noText => cases capture <;> simp [hclipboard, clipboardOutputs, upToPanic]
    -- the text is sent, whatever comes after it
    | text contents =>
      refine iff_of_false (fun hnot => hnot (.clipboard contents) ?_) ?_ <;>
        simp [hclipboard, clipboardOutputs, upToPanic]
  · cases capture <;> simp [hclipboard, upToPanic]

end Outputs

end SysInputHandler

namespace Service

open Sample (press startService modifiersRun)
open SysInputHandler (ClipboardEnv isHeld hotkeyFlag SendsNoState)

variable {SK PK : Type} {cr : Crates SK PK} {pb : Prost}

/-! ## Handling an event to its end -/

/-- The handler does what it has to do, up to a panic, with no step of the others in between. -/
def perform (s : Service SK) : List HandlerOutput → Service SK
  | [] => { s with pending := [] }
  | .updateState newState :: pending =>
    perform { s with task := s.task.overwrite newState, pending } pending
  | .trySend event :: pending =>
    perform { s with task := s.task.trySend event, pending } pending
  | .panic :: pending => { s with pending := .panic :: pending }

/-- An event is handled to its end, and nothing else happens in the service meanwhile: what room the
channel has at the start is there for what the handler sends. -/
def handle (s : Service SK) (event : Event) (clipboard : ClipboardEnv) : Service SK :=
  let handled := s.handler.handleEvent s.task.iface.appState event clipboard
  perform { s with handler := handled.1, pending := handled.2 } handled.2

theorem reachable_perform {s : Service SK} (h : (service cr pb).Reachable s)
    {pending : List HandlerOutput} (hpending : s.pending = pending) :
    (service cr pb).Reachable (s.perform pending) := by
  induction pending generalizing s with
  | nil =>
    rw [perform, ← hpending]
    exact h
  | cons output pending ih =>
    cases output with
    | updateState newState =>
      refine ih (h.step (a := ServiceAction.output) ?_) rfl
      simp only [service, step, hpending]
    | trySend event =>
      refine ih (h.step (a := ServiceAction.output) ?_) rfl
      simp only [service, step, hpending]
    | panic =>
      rw [perform, ← hpending]
      exact h

/-- Handling an event to its end is one of the things that can happen. -/
theorem reachable_handle {s : Service SK} (h : (service cr pb).Reachable s)
    (hidle : s.pending = []) (event : Event) (clipboard : ClipboardEnv) :
    (service cr pb).Reachable (s.handle event clipboard) := by
  have hstep : (service cr pb).step s (.handleEvent event clipboard) = some { s with
      handler := (s.handler.handleEvent s.task.iface.appState event clipboard).1
      pending := (s.handler.handleEvent s.task.iface.appState event clipboard).2 } := by
    simp only [service, step, hidle]
  exact reachable_perform (h.step hstep) rfl

/-- What is performed puts the events in the channel that are sent before a panic, as far as there
are places for them. -/
theorem inputs_perform (s : Service SK) (pending : List HandlerOutput) :
    (s.perform pending).task.inputs =
      s.task.inputs ++ (SysInputHandler.sentInputs pending).take s.task.places := by
  induction pending generalizing s with
  | nil => simp [perform, SysInputHandler.sentInputs, SysInputHandler.upToPanic]
  | cons output pending ih =>
    cases output with
    | updateState newState =>
      exact ih { s with task := s.task.overwrite newState, pending }
    | trySend event =>
      have hsent : SysInputHandler.sentInputs (.trySend event :: pending) =
          event :: SysInputHandler.sentInputs pending := rfl
      rw [perform, ih, hsent]
      by_cases hroom : s.task.HasRoom
      -- the event takes the first of the places
      · have hplaces : s.task.places = (s.task.trySend event).places + 1 := by
          have hlength := hroom.2
          simp only [BleTask.places, BleTask.trySend, if_pos hroom, if_neg hroom.1,
            List.length_append, List.length_singleton]
          omega
        rw [hplaces, List.take_succ_cons, BleTask.trySend, if_pos hroom, List.append_assoc]
        rfl
      · have hnone : s.task.places = 0 := by
          rw [BleTask.hasRoom_iff] at hroom
          omega
        have hdropped : s.task.trySend event = s.task := if_neg hroom
        simp only [hdropped, hnone, List.take_zero]
    | panic => simp [perform, SysInputHandler.sentInputs, SysInputHandler.upToPanic]

/-- The channel is left as it is exactly when it has no room, or nothing is sent before a
panic. -/
theorem inputs_perform_iff (s : Service SK) (pending : List HandlerOutput) :
    (s.perform pending).task.inputs = s.task.inputs ↔
      ¬ s.task.HasRoom ∨ ∀ event, .trySend event ∉ SysInputHandler.upToPanic pending := by
  rw [inputs_perform, List.append_right_eq_self, List.take_eq_nil_iff, BleTask.hasRoom_iff,
    Nat.pos_iff_ne_zero, not_not, SysInputHandler.sentInputs_eq_nil_iff]

/-- What is performed after the last state that is sent leaves the published state alone. -/
theorem appState_perform {pending : List HandlerOutput} (hquiet : SendsNoState pending)
    (s : Service SK) : (s.perform pending).task.iface.appState = s.task.iface.appState := by
  induction pending generalizing s with
  | nil => rfl
  | cons output pending ih =>
    have hrest : SendsNoState pending :=
      fun state hmem => hquiet state (List.mem_cons_of_mem _ hmem)
    cases output with
    | updateState newState => exact absurd List.mem_cons_self (hquiet newState)
    | trySend event =>
      rw [perform, ih hrest { s with task := s.task.trySend event, pending },
        BleTask.trySend_iface]
    | panic => rfl

/-! ## Runs -/

/-- The service with the events handled so far. -/
def withEvents (cr : Crates SK PK) (pb : Prost) :
    Transition.System (Service SK × List EventType) (ServiceAction SK) :=
  (service cr pb).withHistory [] fun events _ a _ =>
    match a with
    | .handleEvent event _ => events ++ [event.eventType]
    | _ => events

/-- The handler knows the keys that are held. -/
theorem mem_pressedKeys_iff {p : Service SK × List EventType}
    (h : (withEvents cr pb).Reachable p) (key : Key) :
    key ∈ p.1.handler.pressedKeys ↔ isHeld key p.2 = true := by
  refine h.invariant_withHistory
    (I := fun s events => key ∈ s.handler.pressedKeys ↔ isHeld key events = true) ?_ ?_
  · rintro _ ⟨storage, now, rfl⟩
    simp [SysInputHandler.new, isHeld]
  · rintro s events a t hs - hst
    cases moves_of_step hst with
    | task | updateState | trySend => exact hs
    | @handleEvent event clipboard handler pending hidle hhandled =>
      have hmem := s.handler.mem_handleEvent_pressedKeys s.task.iface.appState event clipboard key
      rw [hhandled] at hmem
      rw [hmem, isHeld, Level.level_concat]
      simp only [isHeld] at hs
      simp only [hs, Bool.decide_eq_true]

/-- A Ctrl key and an Alt key are held after the events. -/
def ModifiersHeld (events : List EventType) : Prop :=
  (isHeld .controlLeft events = true ∨ isHeld .controlRight events = true) ∧
    (isHeld .alt events = true ∨ isHeld .altGr events = true)

/-- Handling the event flips the flag, no other, and leaves the input channel as it is. -/
def FlipsOnly (s : Service SK) (event : Event) (clipboard : ClipboardEnv) (flag : CaptureFlag) :
    Prop :=
  (∀ g, (s.handle event clipboard).task.iface.appState.flag g =
    if g = flag then !s.task.iface.appState.flag g else s.task.iface.appState.flag g) ∧
  (s.handle event clipboard).task.inputs = s.task.inputs

/-- The condition on the state and the key: the channel has no room, or nothing is captured that
the key would send. -/
def CapturesNothing (s : Service SK) (key : Key) (clipboard : ClipboardEnv) : Prop :=
  ¬ s.task.HasRoom ∨
    if s.task.iface.appState.enableClipboardCapture = true ∧ key = .keyV then
      clipboard = .unavailable ∨
        clipboard = .noText ∧ s.task.iface.appState.enableKeyCapture = false
    else s.task.iface.appState.enableKeyCapture = false

/-- After every sequence of events and with every value of the capture flags, whatever else the
service has done: Ctrl+Alt+C, V or M flips its flag and puts nothing in the input channel exactly
when the channel has no room or nothing is captured that the key would send. The room is that at the
start of the event, which is handled without a break. -/
theorem hotkey_flips_only_iff {p : Service SK × List EventType}
    (h : (withEvents cr pb).Reachable p) {event : Event} {key : Key} {flag : CaptureFlag}
    (hevent : event.eventType = .keyPress key) (hflag : hotkeyFlag key = some flag)
    (hheld : ModifiersHeld p.2) (clipboard : ClipboardEnv) :
    FlipsOnly p.1 event clipboard flag ↔ CapturesNothing p.1 key clipboard := by
  obtain ⟨s, events⟩ := p
  -- the handler's keys are those of the history, so that it sees a hotkey
  have hhotkey : s.handler.hotkeyHeld = true := by
    simp only [SysInputHandler.hotkeyHeld, SysInputHandler.holds, Bool.and_eq_true,
      decide_eq_true_eq, mem_pressedKeys_iff h]
    exact hheld
  obtain ⟨report, houtputs⟩ :=
    s.handler.handleEvent_hotkey s.task.iface.appState hevent hflag hhotkey clipboard
  have hsends :=
    (s.handler.handleEvent_sendsToggle s.task.iface.appState event clipboard).2
  rw [houtputs] at hsends
  -- the flag is flipped by the first output, whatever comes after it
  have hflags : ∀ g, (s.handle event clipboard).task.iface.appState.flag g =
      if g = flag then !s.task.iface.appState.flag g
      else s.task.iface.appState.flag g := fun g => by
    simp only [handle, houtputs]
    rw [perform, appState_perform (WatchCell.sendsNoState_of_cons hsends)]
    exact AppState.flag_toggle _ flag g
  rw [FlipsOnly, and_iff_right hflags, CapturesNothing]
  simp only [handle, houtputs]
  exact (inputs_perform_iff _ _).trans
    (or_congr Iff.rfl (SysInputHandler.sendsNothing_iff ..))

theorem reachable_of_run {run : List (ServiceAction UInt8)} {p : Service UInt8 × List EventType}
    (hp : (withEvents sampleCrates Sample.prost).replay (fun _ _ => True) (startService, []) run =
      some p) : (withEvents sampleCrates Sample.prost).Reachable p :=
  .of_replay run (.init ⟨⟨_, 0, rfl⟩, rfl⟩) hp

/-- With key capture off, Ctrl+Alt+C flips the flag and nothing else. -/
theorem hotkey_flips_only_sample : ∃ p : Service UInt8 × List EventType,
    ModifiersHeld p.2 ∧ FlipsOnly p.1 ⟨0, none, .keyPress .keyC⟩ .noText .key := by
  have hrun : ((withEvents sampleCrates Sample.prost).replay (fun _ _ => True)
      (startService, []) modifiersRun).map (fun p => (p.2,
        p.1.task.iface.appState.enableKeyCapture)) =
      some ([.keyPress .controlLeft, .keyPress .alt], false) := by decide +kernel
  obtain ⟨p, hp, hfacts⟩ := Option.map_eq_some_iff.mp hrun
  obtain ⟨hevents, hcapture⟩ := Prod.mk.inj hfacts
  have hreach := reachable_of_run hp
  have hheld : ModifiersHeld p.2 := by
    rw [hevents]
    exact ⟨.inl rfl, .inl rfl⟩
  refine ⟨p, hheld, (hotkey_flips_only_iff hreach rfl rfl hheld .noText).mpr (.inr ?_)⟩
  rw [if_neg (fun h => nomatch h.2), hcapture]

/-- Ctrl+Alt+C has switched key capture on; the second Ctrl+Alt+C is sent to the device. -/
theorem hotkey_reaches_device :
    ¬ ∀ p, (withEvents sampleCrates Sample.prost).Reachable p → p.1.pending = [] →
      ∀ event key flag clipboard, event.eventType = .keyPress key → hotkeyFlag key = some flag →
        ModifiersHeld p.2 → FlipsOnly p.1 event clipboard flag := by
  intro hclaim
  have hrun : ((withEvents sampleCrates Sample.prost).replay (fun _ _ => True)
      (startService, []) (modifiersRun ++ [press .keyC, .output])).map (fun p =>
        (p.2, p.1.pending.length, p.1.task.inputs.length,
          (p.1.handle ⟨0, none, .keyPress .keyC⟩ .noText).task.inputs.length)) =
      some ([.keyPress .controlLeft, .keyPress .alt, .keyPress .keyC], 0, 0, 1) := by
    decide +kernel
  obtain ⟨p, hp, hfacts⟩ := Option.map_eq_some_iff.mp hrun
  simp only [Prod.mk.injEq] at hfacts
  obtain ⟨hevents, hpending, hbefore, hafter⟩ := hfacts
  have hreach := reachable_of_run hp
  have hheld : ModifiersHeld p.2 := by
    rw [hevents]
    exact ⟨.inl rfl, .inl rfl⟩
  have hflips := hclaim p hreach (List.eq_nil_of_length_eq_zero hpending)
    ⟨0, none, .keyPress .keyC⟩ .keyC .key .noText rfl rfl hheld
  rw [hflips.2, hbefore] at hafter
  cases hafter

end Service

end ToothPaste
