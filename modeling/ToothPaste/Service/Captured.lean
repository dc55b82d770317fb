import ToothPaste.Input.Runs
import ToothPaste.Lib.Tagged
import ToothPaste.Service.Reports

/-!
# What is captured

The handler puts in the input channel what it makes of the events of the listener. The other
producers of the channel put events there in between, and one that finds no room is dropped.

* `captured_licensed`: in every run, the task takes from the channel what was put there, in order;
  what the handler put there are the inputs that it made of its events, in order and each once, but
  for those that found no room; and each of these was made of its event as the capture flags, in the
  state published at that time, and the keys held then say.
-/

namespace ToothPaste

open SysInputHandler (sentInputs builtReport isHeld)

/-- The inputs that are made of an event, after these events, the last of which it is. -/
inductive Licensed (events : List EventType) (handling : Handling) : InputEvent → Prop
  | report {key : Key} {code : UInt8} (hcapture : handling.state.enableKeyCapture = true)
      (hpress : handling.event.eventType = .keyPress key) (hcode : key.code = some code)
      (hspecial : (∃ c ∈ ModifierClass.known, classHeld events c = true) ∨
        (keyToHid key).isSome = true) :
      Licensed events handling (.keycode (builtReport (classHeld events) code))
  | character {key : Key} (hcapture : handling.state.enableKeyCapture = true)
      (hpress : handling.event.eventType = .keyPress key)
      (hfree : ∀ c ∈ ModifierClass.known, classHeld events c = false)
      (hhid : keyToHid key = none) (hascii : (keyToAscii key).isSome = true) :
      Licensed events handling (.rdevEvent handling.event)
  | clipboard {text : String} (hcapture : handling.state.enableClipboardCapture = true)
      (hpress : handling.event.eventType = .keyPress .keyV)
      (hctrl : classHeld events .ctrl = true) (htext : handling.clipboard = .text text) :
      Licensed events handling (.clipboard text)
  | button {button : Button} (hcapture : handling.state.enableMouseCapture = true)
      (hclick : handling.event.eventType = .buttonPress button ∨
        handling.event.eventType = .buttonRelease button) :
      Licensed events handling (.rdevEvent handling.event)
  | motion {x y dx dy : ℚ} (hcapture : handling.state.enableMouseCapture = true)
      (hmove : handling.event.eventType = .mouseMove x y) :
      Licensed events handling (.rdevEvent ⟨handling.event.time, none, .mouseMove dx dy⟩)

namespace SysInputHandler

variable {h : SysInputHandler} {events : List EventType}

/-! ## The keys that are held -/

/-- The handler knows the keys that are held after the events. -/
def Knows (h : SysInputHandler) (events : List EventType) : Prop :=
  ∀ key, key ∈ h.pressedKeys ↔ isHeld key events = true

/-- The handler keeps knowing the keys that are held. -/
theorem Knows.handleEvent (hknows : h.Knows events) (handling : Handling) :
    (h.handleEvent handling.state handling.event handling.clipboard).1.Knows
      (events ++ [handling.event.eventType]) := fun key => by
  have hkey := hknows key
  rw [isHeld] at hkey
  rw [mem_handleEvent_pressedKeys, isHeld, Level.level_concat]
  simp only [hkey, Bool.decide_eq_true]

/-- What the handler holds of a modifier is what is held of it. -/
theorem Knows.holds (hknows : h.Knows events) (c : ModifierClass) :
    h.holds c.left c.right = classHeld events c := by
  rw [Bool.eq_iff_iff, SysInputHandler.holds, classHeld, decide_eq_true_eq, Bool.or_eq_true,
    hknows, hknows]

/-! ## What an event makes -/

/-- What is sent goes to `try_send`. -/
theorem trySend_of_mem_sentInputs {outputs : List HandlerOutput} {input : InputEvent}
    (hmem : input ∈ sentInputs outputs) : .trySend input ∈ outputs := by
  obtain ⟨output, houtput, hinput⟩ := List.mem_filterMap.mp hmem
  refine (isPrefix_upToPanic outputs).subset ?_
  cases output with
  | trySend event => exact Option.some.inj hinput ▸ houtput
  | updateState | panic => cases hinput

/-- A key that has no code is not sent. -/
theorem forwardKey_of_no_code (h : SysInputHandler) (event : Event) {key : Key}
    (hcode : key.code = none) : h.forwardKey event key = [] := by
  obtain ⟨hhid, hascii⟩ := Option.or_eq_none_iff.mp hcode
  have hreport : ∀ ctrl alt shift, buildHidReport ⟨ctrl, alt, shift, key⟩ = none := fun _ _ _ => by
    rw [buildHidReport, hhid, hascii]
    rfl
  simp [forwardKey, hhid, hascii, hreport]

/-- A key that is forwarded is licensed by key capture. -/
theorem licensed_forwardKey {handling : Handling} (hknows : h.Knows events)
    (hstate : h.currentState = handling.state) {key : Key}
    (hpress : handling.event.eventType = .keyPress key) {input : InputEvent}
    (hmem : .trySend input ∈ h.forwardKey handling.event key) :
    Licensed events handling input := by
  by_cases hcapture : handling.state.enableKeyCapture = true
  · cases hcode : key.code with
    | none =>
      rw [forwardKey_of_no_code h _ hcode] at hmem
      cases hmem
    | some code =>
      rw [forwardKey_of_code h (classHeld events) hknows.holds (hstate ▸ hcapture) _ hcode] at hmem
      obtain rfl := HandlerOutput.trySend.inj (List.mem_singleton.mp hmem)
      split_ifs with hspecial
      · refine .report hcapture hpress hcode ?_
        simp only [Bool.or_eq_true] at hspecial
        rcases hspecial with ((hctrl | halt) | hshift) | hhid
        · exact .inl ⟨.ctrl, by decide, hctrl⟩
        · exact .inl ⟨.alt, by decide, halt⟩
        · exact .inl ⟨.shift, by decide, hshift⟩
        · exact .inr hhid
      · simp only [Bool.or_eq_true, not_or, Bool.not_eq_true, Option.isSome_eq_false_iff,
          Option.isNone_iff_eq_none] at hspecial
        obtain ⟨⟨⟨hctrl, halt⟩, hshift⟩, hhid⟩ := hspecial
        refine .character hcapture hpress (fun c hc => ?_) hhid ?_
        · simp only [ModifierClass.known, List.mem_cons, List.not_mem_nil, or_false] at hc
          rcases hc with rfl | rfl | rfl
          exacts [hctrl, hshift, halt]
        · rw [Key.code, hhid, Option.none_or] at hcode
          rw [hcode]
          rfl
  · rw [forwardKey, hstate, if_neg hcapture] at hmem
    cases hmem

/-- The text of the clipboard is licensed by clipboard capture and Ctrl+V. -/
theorem licensed_handleClipboardEvent {handling : Handling} (hknows : h.Knows events)
    (hstate : h.currentState = handling.state) {key : Key}
    (hpress : handling.event.eventType = .keyPress key) {input : InputEvent}
    (hmem : .trySend input ∈ h.handleClipboardEvent key handling.clipboard) :
    Licensed events handling input := by
  unfold handleClipboardEvent at hmem
  rw [hstate] at hmem
  split_ifs at hmem with hsends
  · obtain ⟨hcapture, rfl, hctrl⟩ := hsends
    cases htext : handling.clipboard with
    | text contents =>
      rw [htext] at hmem
      obtain rfl := HandlerOutput.trySend.inj (List.mem_singleton.mp hmem)
      exact .clipboard hcapture hpress ((hknows.holds .ctrl).symm.trans hctrl) htext
    | unavailable | noText =>
      rw [htext] at hmem
      simp at hmem
  · cases hmem

/-- A motion that is forwarded is licensed by mouse capture. -/
theorem licensed_forwardDelta {handling : Handling}
    (hmove : ∃ x y, handling.event.eventType = .mouseMove x y) {input : InputEvent}
    (hmem : .trySend input ∈ h.forwardDelta handling.event.time handling.state.enableMouseCapture
      fun delta => .mouseMove delta.1 delta.2) :
    Licensed events handling input := by
  obtain ⟨x, y, hmove⟩ := hmove
  rw [forwardDelta] at hmem
  split_ifs at hmem with hsends
  · obtain rfl := HandlerOutput.trySend.inj (List.mem_singleton.mp hmem)
    exact .motion hsends.2 hmove
  · cases hmem

/-- A click is licensed by mouse capture. -/
theorem licensed_handleMouseClick {handling : Handling} (hstate : h.currentState = handling.state)
    {button : Button} (hclick : handling.event.eventType = .buttonPress button ∨
      handling.event.eventType = .buttonRelease button) {input : InputEvent}
    (hmem : .trySend input ∈ h.handleMouseClick handling.event) :
    Licensed events handling input := by
  rw [handleMouseClick, hstate] at hmem
  split_ifs at hmem with hcapture
  · obtain rfl := HandlerOutput.trySend.inj (List.mem_singleton.mp hmem)
    exact .button hcapture hclick
  · cases hmem

/-- What is made of an event is what the flags and the keys say. -/
theorem licensed_handleEvent (hknows : h.Knows events) (handling : Handling) {input : InputEvent}
    (hmem : input ∈
      sentInputs (h.handleEvent handling.state handling.event handling.clipboard).2) :
    Licensed (events ++ [handling.event.eventType]) handling input := by
  have hafter := hknows.handleEvent handling
  replace hmem := trySend_of_mem_sentInputs hmem
  cases hevent : handling.event.eventType with
  | keyPress key =>
    rw [handleEvent_keyPress h _ hevent, hevent] at hafter
    rw [handleEvent_keyPress h _ hevent] at hmem
    replace hmem := (isPrefix_upToPanic _).subset hmem
    rcases List.mem_append.mp hmem with hmem | hmem
    · rcases List.mem_append.mp hmem with hmem | hmem
      -- a hotkey sends a state
      · split_ifs at hmem
        · simp at hmem
        · cases hmem
      · exact licensed_handleClipboardEvent hafter rfl hevent hmem
    · exact licensed_forwardKey hafter rfl hevent hmem
  | mouseMove x y =>
    simp only [SysInputHandler.handleEvent, hevent, handleMouseMove, processAccumulatedEvent]
      at hmem
    split_ifs at hmem
    · exact licensed_forwardDelta ⟨x, y, hevent⟩ hmem
    · exact licensed_forwardDelta ⟨x, y, hevent⟩ hmem
    · cases hmem
  | buttonPress button =>
    simp only [SysInputHandler.handleEvent, hevent] at hmem
    exact licensed_handleMouseClick rfl (.inl hevent) hmem
  | buttonRelease button =>
    simp only [SysInputHandler.handleEvent, hevent] at hmem
    exact licensed_handleMouseClick rfl (.inr hevent) hmem
  | keyRelease key | wheel deltaX deltaY =>
    simp [SysInputHandler.handleEvent, hevent, handleKeyboardEvent] at hmem

end SysInputHandler

/-! ## The input channel -/

/-- Only putting and taking touch the input channel. -/
theorem BleTask.inputs_of_moves {SK PK : Type} {cr : Crates SK PK} {pb : Prost}
    {s t : BleTask SK} {a : BleAction SK} (hm : Moves cr pb s a t) :
    t.inputs = match a with
      | .putInput event => s.inputs ++ [event]
      | .recvInput _ => s.inputs.tail
      | _ => s.inputs := by
  cases hm with
  | recvInput hphase hevent => rw [after_inputs, hevent, List.tail_cons]
  | @idleCommand env cmd rest hphase hcmd =>
    exact (channels_idleCommand cr pb { s with commands := rest } cmd env).2
  | command | greet | recvNotification => exact after_inputs ..
  | putInput | putCommand | notify | notifyLost | endStream | publish | publishNone | subscribe
  | subscribeFails | openStream | openStreamFails => rfl

namespace Service

open Tagged
open SysInputHandler (Knows)

variable {SK PK : Type} {cr : Crates SK PK} {pb : Prost} {s t : Service SK}

/-- Who puts an event in the input channel. -/
inductive Producer where
  | handler
  | other
  deriving DecidableEq

/-- An input that the handler made, with the event it made it of and the events up to that one. -/
structure Capture where
  events : List EventType
  handling : Handling
  input : InputEvent

/-- What the handler has handled and what it made of it, what of this it has passed to `try_send`
and whether there was room, what was put in the input channel, and what the task has taken. -/
structure CaptureLog where
  events : List EventType
  captured : List Capture
  offered : List (InputEvent × Bool)
  put : List (Producer × InputEvent)
  taken : List InputEvent

/-- The log after a step. -/
def CaptureLog.after (log : CaptureLog) (s : Service SK) : ServiceAction SK → CaptureLog
  | .handleEvent event clipboard =>
    let handling : Handling := ⟨s.task.iface.appState, event, clipboard⟩
    let events := log.events ++ [event.eventType]
    { log with
      events
      captured := log.captured ++ (sentInputs (s.handler.handleEvent handling.state event
        clipboard).2).map fun input => ⟨events, handling, input⟩ }
  | .output =>
    match s.pending with
    | .trySend event :: _ =>
      { log with
        offered := log.offered ++ [(event, decide s.task.HasRoom)]
        put := log.put ++ if s.task.HasRoom then [(.handler, event)] else [] }
    | _ => log
  | .task (.putInput event) => { log with put := log.put ++ [(.other, event)] }
  | .task (.recvInput _) => { log with taken := log.taken ++ s.task.inputs.take 1 }
  | .task _ => log

/-- The service with the log. -/
def withCaptures (cr : Crates SK PK) (pb : Prost) :
    Transition.System (Service SK × CaptureLog) (ServiceAction SK) :=
  (service cr pb).withHistory ⟨[], [], [], [], []⟩ fun log s a _ => log.after s a

/-- What the handler puts in the channel of what it passes to `try_send`. -/
def accepted (offered : List (InputEvent × Bool)) : List InputEvent :=
  (offered.filter Prod.snd).map Prod.fst

/-- What holds in every reachable state. -/
structure CapturesKept (s : Service SK) (log : CaptureLog) : Prop where
  knows : s.handler.Knows log.events
  licensed : ∀ x ∈ log.captured, Licensed x.events x.handling x.input
  offered : log.captured.map Capture.input = log.offered.map Prod.fst ++ sentInputs s.pending
  put : of .handler log.put = accepted log.offered
  taken : log.put.map Prod.snd = log.taken ++ s.task.inputs

/-- A step of the task leaves the handler alone. -/
theorem CapturesKept.task {log : CaptureLog} (h : CapturesKept s log) {a : BleAction SK}
    {task : BleTask SK} (hm : BleTask.Moves cr pb s.task a task) :
    CapturesKept { s with task } (log.after s (.task a)) := by
  have hinputs := BleTask.inputs_of_moves hm
  cases a with
  | putInput event =>
    refine ⟨h.knows, h.licensed, h.offered, ?_, ?_⟩
    · rw [CaptureLog.after, of_append, h.put]
      simp [of_cons_of_ne (show Producer.other ≠ .handler by decide)]
    · rw [CaptureLog.after, List.map_append, h.taken, hinputs, List.append_assoc]
      rfl
  | recvInput envs =>
    refine ⟨h.knows, h.licensed, h.offered, h.put, ?_⟩
    rw [CaptureLog.after, h.taken, hinputs, List.append_assoc]
    cases s.task.inputs <;> rfl
  | putCommand | notify | endStream | recvCommand | greet | publish | subscribe | openStream
  | recvNotification => exact ⟨h.knows, h.licensed, h.offered, h.put, hinputs ▸ h.taken⟩

/-- Every step keeps the log of captures. -/
theorem capturesKept_step {log : CaptureLog} (h : CapturesKept s log) {a : ServiceAction SK}
    (hm : Moves cr pb s a t) : CapturesKept t (log.after s a) := by
  cases hm with
  | task hm => exact h.task hm
  | @handleEvent event clipboard handler pending hidle hhandled =>
    have hknows := h.knows.handleEvent ⟨s.task.iface.appState, event, clipboard⟩
    refine ⟨?_, ?_, ?_, h.put, h.taken⟩
    · rw [hhandled] at hknows
      exact hknows
    · intro x hx
      rcases List.mem_append.mp hx with hx | hx
      · exact h.licensed x hx
      · obtain ⟨input, hinput, rfl⟩ := List.mem_map.mp hx
        exact SysInputHandler.licensed_handleEvent h.knows _ hinput
    -- the outputs of the event before have all been made
    · have hdone := h.offered
      rw [hidle] at hdone
      rw [CaptureLog.after, List.map_append, hdone, List.map_map, hhandled]
      exact congrArg₂ _ (List.append_nil _) (List.map_id' _)
  | updateState hpending =>
    have hoffered := h.offered
    rw [hpending] at hoffered
    rw [CaptureLog.after, hpending]
    exact ⟨h.knows, h.licensed, hoffered, h.put, h.taken⟩
  | @trySend event pending hpending =>
    have hoffered := h.offered
    rw [hpending] at hoffered
    rw [CaptureLog.after, hpending]
    refine ⟨h.knows, h.licensed, ?_, ?_, ?_⟩
    · rw [hoffered, List.map_append, List.append_assoc]
      rfl
    · rw [of_append, h.put]
      by_cases hroom : s.task.HasRoom <;> simp [accepted, hroom]
    · rw [List.map_append, h.taken, BleTask.trySend]
      by_cases hroom : s.task.HasRoom <;> simp [hroom]

/-- In every run, with other producers of the channel, with whatever the clipboard holds and the
flags flipped at any points: the inputs that the handler makes of its events go to `try_send` in
order; it puts in the channel those that find room; the task takes what was put there in order;
and each input is one that its event makes, with the capture flags that were published when the
event was handled and the keys held then. -/
theorem captured_licensed {p : Service SK × CaptureLog} (h : (withCaptures cr pb).Reachable p) :
    (∀ x ∈ p.2.captured, Licensed x.events x.handling x.input) ∧
    p.2.captured.map Capture.input = p.2.offered.map Prod.fst ++ sentInputs p.1.pending ∧
    of .handler p.2.put = accepted p.2.offered ∧
    p.2.put.map Prod.snd = p.2.taken ++ p.1.task.inputs := by
  have hkept : CapturesKept p.1 p.2 := by
    refine h.invariant_withHistory (I := CapturesKept) ?_ ?_
    · rintro s ⟨storage, now, rfl⟩
      exact ⟨fun key => by simp [SysInputHandler.new, isHeld], List.forall_mem_nil _, rfl, rfl, rfl⟩
    · rintro s log a t hkept - hst
      exact capturesKept_step hkept (moves_of_step hst)
  exact ⟨hkept.licensed, hkept.offered, hkept.put, hkept.taken⟩

/-- Ctrl+Alt+C switches key capture on and makes no input. Then A makes a report with Ctrl and
Alt, which waits in the channel. -/
theorem captured_licensed_sample : ∃ p : Service UInt8 × CaptureLog,
    p.1.task.inputs = [.keycode [0x80, 0x82, 0, 0, 0, 0x61, 0, 0]] ∧
    ∃ x ∈ p.2.captured, x.input = .keycode [0x80, 0x82, 0, 0, 0, 0x61, 0, 0] ∧
      Licensed x.events x.handling x.input := by
  have hrun : ((withCaptures sampleCrates Sample.prost).replay (fun _ _ => True)
      (Sample.startService, ⟨[], [], [], [], []⟩)
      (Sample.modifiersRun ++ [Sample.press .keyC, .output, Sample.press .keyA, .output])).map
        (fun p => (p.1.task.inputs, p.2.captured.map Capture.input)) =
      some ([.keycode [0x80, 0x82, 0, 0, 0, 0x61, 0, 0]],
        [.keycode [0x80, 0x82, 0, 0, 0, 0x61, 0, 0]]) := by
    decide +kernel
  obtain ⟨p, hp, hfacts⟩ := Option.map_eq_some_iff.mp hrun
  obtain ⟨hinputs, hcaptured⟩ := Prod.mk.inj hfacts
  obtain ⟨hlicensed, -⟩ := captured_licensed (.of_replay _ (.init ⟨⟨_, 0, rfl⟩, rfl⟩) hp)
  have hmem : .keycode [0x80, 0x82, 0, 0, 0, 0x61, 0, 0] ∈ p.2.captured.map Capture.input := by
    rw [hcaptured]
    exact List.mem_singleton_self _
  obtain ⟨x, hx, hinput⟩ := List.mem_map.mp hmem
  exact ⟨p, hinputs, x, hx, hinput, hlicensed x hx⟩

end Service

end ToothPaste
