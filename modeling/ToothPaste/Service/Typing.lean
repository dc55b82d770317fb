import ToothPaste.Ble.Payloads
import ToothPaste.Service.Hotkeys

/-!
# Typing through the service

With key capture on, a key that is pressed with no modifier held and has no HID code is forwarded
as the event it came in, and `run` types the event's name. Whether it is forwarded is decided by
`key_to_ascii`, whose table leaves out some of the keys that type a character.

* `typed_iff`: over every run, what is typed is what was pressed exactly when `key_to_ascii` knows
  every key that was pressed.
* `dot_not_typed`: the key of the full stop is pressed and nothing is typed.
-/

namespace ToothPaste

/-- The text a payload types. -/
def EncryptedData.message (payload : EncryptedData) : Option String :=
  match payload.packetData with
  | some (.keyboardPacket _ message) => some message
  | _ => none

/-- The texts an input event types. -/
def textsOf (event : InputEvent) : List String :=
  (inputPayloads event).filterMap EncryptedData.message

/-- The texts that were sent. -/
def messagesSent (attempted : List (EncryptedData × Bool)) : List String :=
  (attempted.filter Prod.snd).filterMap fun x => x.1.message

/-- The characters of the texts, one text after the other. -/
def typed (texts : List String) : List Char := texts.flatMap String.toList

theorem textsOf_press {event : Event} {key : Key} {name : String}
    (hevent : event.eventType = .keyPress key) (hname : event.name = some name) :
    textsOf (.rdevEvent event) = [name] := by
  simp only [textsOf, inputPayloads, hevent, hname]
  rfl

/-- A part of the texts types the same characters as all of them, each of which types one, only if
it is all of them. -/
theorem typed_filter_iff {α : Type} {text : α → String} {keep : α → Bool} {xs : List α}
    (hone : ∀ x ∈ xs, (text x).length = 1) :
    typed ((xs.filter keep).map text) = typed (xs.map text) ↔ ∀ x ∈ xs, keep x = true := by
  have hlength : ∀ ys : List α, (∀ y ∈ ys, (text y).length = 1) →
      (typed (ys.map text)).length = ys.length := by
    intro ys hys
    induction ys with
    | nil => rfl
    | cons y ys ih =>
      have hhead := hys y List.mem_cons_self
      have htail := ih fun y hy => hys y (List.mem_cons_of_mem _ hy)
      simp only [typed, List.map_cons, List.flatMap_cons, List.length_append,
        String.length_toList, List.length_cons] at htail ⊢
      omega
  rw [← List.filter_eq_self]
  constructor
  -- each text is one character, so that a missing one shows in the length
  · intro heq
    have hcount := congrArg List.length heq
    rw [hlength _ fun x hx => hone x (List.mem_filter.mp hx).1, hlength xs hone] at hcount
    rw [List.filter_eq_self]
    exact List.length_filter_eq_length_iff.mp hcount
  · intro heq
    rw [heq]

namespace SysInputHandler

variable (h : SysInputHandler)

/-- No modifier is held. -/
structure ModifierFree : Prop where
  ctrl : h.holds .controlLeft .controlRight = false
  alt : h.holds .alt .altGr = false
  shift : h.holds .shiftLeft .shiftRight = false

/-- A key without a HID code is no modifier. -/
theorem pressed_holds_eq {key left right : Key} (hhid : keyToHid key = none)
    (hleft : (keyToHid left).isSome = true) (hright : (keyToHid right).isSome = true) :
    (h.pressed key).holds left right = h.holds left right := by
  have hne : ∀ k, (keyToHid k).isSome = true → k ≠ key := by
    rintro k hk rfl
    rw [hhid] at hk
    cases hk
  simp [holds, pressed, hne left hleft, hne right hright]

theorem ModifierFree.pressed {h : SysInputHandler} (hfree : h.ModifierFree) {key : Key}
    (hhid : keyToHid key = none) : (h.pressed key).ModifierFree where
  ctrl := by rw [pressed_holds_eq h hhid rfl rfl, hfree.ctrl]
  alt := by rw [pressed_holds_eq h hhid rfl rfl, hfree.alt]
  shift := by rw [pressed_holds_eq h hhid rfl rfl, hfree.shift]

/-- A key without a HID code that is pressed with no modifier held is forwarded as it came in, if
`key_to_ascii` knows it. -/
theorem handleEvent_press {h : SysInputHandler} (hfree : h.ModifierFree) {state : AppState}
    (hcapture : state.enableKeyCapture = true) {event : Event} {key : Key}
    (hevent : event.eventType = .keyPress key) (hhid : keyToHid key = none)
    (clipboard : ClipboardEnv) :
    (h.handleEvent state event clipboard).1.ModifierFree ∧
    (h.handleEvent state event clipboard).2 =
      if (keyToAscii key).isSome = true then [.trySend (.rdevEvent event)] else [] := by
  -- neither a hotkey nor Ctrl+V, and the key goes on to the text branch of `forwardKey`
  have hread : ModifierFree { h with currentState := state } := ⟨hfree.ctrl, hfree.alt, hfree.shift⟩
  have hpressed := hread.pressed hhid
  have hhotkey : (SysInputHandler.pressed { h with currentState := state } key).hotkeyHeld =
      false := by
    rw [hotkeyHeld, hpressed.ctrl, Bool.false_and]
  have hclip : (SysInputHandler.pressed { h with currentState := state } key).handleClipboardEvent
      key clipboard = [] := by
    simp [handleClipboardEvent, hpressed.ctrl]
  have hforward : (SysInputHandler.pressed { h with currentState := state } key).forwardKey event
      key = if (keyToAscii key).isSome = true then [.trySend (.rdevEvent event)] else [] := by
    have hon : (SysInputHandler.pressed { h with currentState := state }
      key).currentState.enableKeyCapture = true := hcapture
    simp [forwardKey, hon, hpressed.ctrl, hpressed.alt, hpressed.shift, hhid]
  rw [handleEvent_keyPress h state hevent, hhotkey, hclip, hforward,
    if_neg Bool.false_ne_true]
  refine ⟨hpressed, ?_⟩
  by_cases hcode : (keyToAscii key).isSome = true <;> simp [upToPanic, hcode]

/-- A key that is released sends nothing. -/
theorem handleEvent_release {h : SysInputHandler} (hfree : h.ModifierFree) (state : AppState)
    {event : Event} {key : Key} (hevent : event.eventType = .keyRelease key)
    (clipboard : ClipboardEnv) :
    (h.handleEvent state event clipboard).1.ModifierFree ∧
    (h.handleEvent state event clipboard).2 = [] := by
  have hheld : ∀ left right, h.holds left right = false →
      (h.handleEvent state event clipboard).1.holds left right = false := by
    intro left right hnot
    simp only [holds, decide_eq_false_iff_not, not_or] at hnot ⊢
    simp only [handleEvent, hevent, handleKeyboardEvent, Finset.mem_erase]
    exact ⟨fun hl => hnot.1 hl.2, fun hr => hnot.2 hr.2⟩
  refine ⟨⟨hheld _ _ hfree.ctrl, hheld _ _ hfree.alt, hheld _ _ hfree.shift⟩, ?_⟩
  simp only [handleEvent, hevent, handleKeyboardEvent]

end SysInputHandler

/-- An update of the BLE task leaves the capture flags alone. -/
theorem Published.flag_eq {app app' : AppState} (h : Published app app') (flag : CaptureFlag) :
    app'.flag flag = app.flag flag := by
  rcases h with rfl | ⟨u, rfl⟩
  · rfl
  · exact WatchCell.flag_apply u app flag

namespace BleTask

variable {SK PK : Type} {cr : Crates SK PK} {pb : Prost} {s t : BleTask SK} {a : BleAction SK}

/-- The texts that a step of the task's surroundings adds to what is typed, or that the task takes
from the command channel. -/
def typedElsewhere (s : BleTask SK) : BleAction SK → List String
  | .putInput event => textsOf event
  | .recvCommand _ => (s.commands.head?.bind commandText).toList
  | _ => []

/-- The condition on a step of the task and its surroundings: nothing else is typed, and every send
succeeds. -/
def TypesInputs (cr : Crates SK PK) (pb : Prost) (s : BleTask SK) (a : BleAction SK) : Prop :=
  typedElsewhere s a = [] ∧ (attempts cr pb s a).all Prod.snd = true

instance (s : BleTask SK) (a : BleAction SK) : Decidable (TypesInputs cr pb s a) :=
  inferInstanceAs (Decidable (_ ∧ _))

/-- The texts of payloads that were all sent. -/
theorem messagesSent_of_all {i : BleInterface SK} {payloads : List EncryptedData}
    {envs : ℕ → SendEnv} (h : (i.attempts cr pb payloads envs).all Prod.snd = true) :
    messagesSent (i.attempts cr pb payloads envs) = payloads.filterMap EncryptedData.message := by
  rw [BleInterface.attempts_of_all h, messagesSent, List.filter_eq_self.mpr (by simp),
    List.filterMap_map]
  rfl

/-- Once the loop of `run` is entered, a step types what it takes from the input channel. -/
theorem texts_step (hentered : s.phase.entered = true) (hcond : TypesInputs cr pb s a)
    (hm : Moves cr pb s a t) :
    messagesSent (attempts cr pb s a) ++ t.inputs.flatMap textsOf = s.inputs.flatMap textsOf := by
  obtain ⟨hnone, hall⟩ := hcond
  cases hm with
  | @putInput event hroom =>
    simp only [typedElsewhere] at hnone
    simp [attempts, messagesSent, hnone]
  | putCommand | notify | notifyLost | endStream | publish | publishNone | subscribe
  | subscribeFails | openStream | openStreamFails => rfl
  | idleCommand hphase =>
    rw [hphase] at hentered
    cases hentered
  -- a command that types nothing takes nothing from the input channel either
  | @command env deviceId cmd rest hphase hcmd =>
    have hquiet : (commandPayloads cmd).filterMap EncryptedData.message = [] := by
      simp only [typedElsewhere, hcmd] at hnone
      cases cmd with
      | sendKeyboardInput text => cases hnone
      | _ => rfl
    simp only [attempts, hphase, hcmd] at hall ⊢
    rw [messagesSent_of_all hall, hquiet, after_inputs, List.nil_append]
  | greet => rw [after_inputs]; rfl
  | @recvInput envs deviceId event rest hphase hevent =>
    simp only [attempts, hphase, hevent] at hall ⊢
    rw [messagesSent_of_all hall, after_inputs]
    rfl
  | recvNotification => rw [after_inputs]; rfl

end BleTask

namespace Service

open SysInputHandler (ModifierFree)

variable {SK PK : Type} {cr : Crates SK PK} {pb : Prost}

/-! ## Runs -/

/-- What was pressed and what was sent. -/
structure Typing where
  /-- Each key that was pressed, with the name its event carries. -/
  presses : List (Key × String)
  /-- The texts of the keyboard packets that were sent. -/
  messages : List String
  deriving DecidableEq

/-- The key and the name of a key press. -/
def pressesOf (event : Event) : List (Key × String) :=
  match event.eventType, event.name with
  | .keyPress key, some name => [(key, name)]
  | _, _ => []

/-- What one step adds. -/
def typing (cr : Crates SK PK) (pb : Prost) (h : Typing) (s : Service SK) :
    ServiceAction SK → Service SK → Typing
  | .handleEvent event _, _ => { h with presses := h.presses ++ pressesOf event }
  | .task a, _ =>
    { h with messages := h.messages ++ messagesSent (BleTask.attempts cr pb s.task a) }
  | .output, _ => h

/-- The service from the state `s`, with what is pressed and sent from then on. -/
def withTyping (cr : Crates SK PK) (pb : Prost) (s : Service SK) :
    Transition.System (Service SK × Typing) (ServiceAction SK) :=
  ((service cr pb).startingAt s).withHistory ⟨[], []⟩ (typing cr pb)

/-- The state typing starts from: in the loop of `run`, with nothing in the input channel, key
capture on, clipboard capture off and no modifier held. -/
structure ReadyToType (s : Service SK) : Prop where
  running : ∃ deviceId, s.task.phase = .running deviceId
  idle : s.pending = []
  inputs : s.task.inputs = []
  capture : s.task.iface.appState.enableKeyCapture = true
  clipboard : s.task.iface.appState.enableClipboardCapture = false
  free : s.handler.ModifierFree

/-- A key event of a key without a HID code; a press carries one printable ASCII character. -/
def isTyping (event : Event) : Bool :=
  match event.eventType, event.name with
  | .keyPress key, some name =>
    keyToHid key = none && name.length = 1 &&
      name.toList.all fun c => 0x20 ≤ c.toNat && c.toNat ≤ 0x7E
  | .keyRelease key, _ => keyToHid key = none
  | _, _ => false

theorem cases_of_isTyping {event : Event} (h : isTyping event = true) :
    ∃ key, keyToHid key = none ∧
      ((∃ name, event.eventType = .keyPress key ∧ event.name = some name ∧ name.length = 1) ∨
        event.eventType = .keyRelease key) := by
  unfold isTyping at h
  split at h
  next key name hpress hname =>
    simp only [Bool.and_eq_true, decide_eq_true_eq] at h
    exact ⟨key, h.1.1, .inl ⟨name, hpress, hname, h.1.2⟩⟩
  next _ key hrelease => exact ⟨key, by simpa using h, .inr hrelease⟩
  next => cases h

/-- The listener's events are such events, the input channel has room, nothing else is typed and
every send succeeds. -/
def TypesKeys (cr : Crates SK PK) (pb : Prost) (s : Service SK) : ServiceAction SK → Prop
  | .handleEvent event _ => isTyping event = true
  | .output => s.task.HasRoom
  | .task a => BleTask.TypesInputs cr pb s.task a

/-- The condition on a step: the device is authenticated and nothing but keys is typed. -/
def OnlyTypes (cr : Crates SK PK) (pb : Prost) (s : Service SK) (a : ServiceAction SK) : Prop :=
  s.task.iface.appState.isAuthenticated = true ∧ TypesKeys cr pb s a

instance (s : Service SK) (a : ServiceAction SK) : Decidable (TypesKeys cr pb s a) :=
  match a with
  | .handleEvent event _ => inferInstanceAs (Decidable (isTyping event = true))
  | .output => inferInstanceAs (Decidable s.task.HasRoom)
  | .task a => inferInstanceAs (Decidable (BleTask.TypesInputs cr pb s.task a))

instance (s : Service SK) (a : ServiceAction SK) : Decidable (OnlyTypes cr pb s a) :=
  inferInstanceAs (Decidable (_ ∧ _))

/-- The texts that an output of the handler types. -/
def outputTexts : HandlerOutput → List String
  | .trySend event => textsOf event
  | _ => []

/-- `key_to_ascii` knows the key. -/
def coded (p : Key × String) : Bool := (keyToAscii p.1).isSome

/-- What holds while keys are typed: the presses that are forwarded were sent, are in the channel
or are about to be put there, in order. -/
structure Types (s : Service SK) (h : Typing) : Prop where
  wellFormed : WellFormed s
  entered : s.task.phase.entered = true
  capture : s.task.iface.appState.enableKeyCapture = true
  free : s.handler.ModifierFree
  quiet : SysInputHandler.SendsNoState s.pending
  texts : h.messages ++ s.task.inputs.flatMap textsOf ++ s.pending.flatMap outputTexts =
    (h.presses.filter coded).map Prod.snd
  names : ∀ p ∈ h.presses, p.2.length = 1

theorem types_start {s : Service SK} (hwf : WellFormed s) (hready : ReadyToType s) :
    Types s ⟨[], []⟩ where
  wellFormed := hwf
  entered := by
    obtain ⟨deviceId, hphase⟩ := hready.running
    rw [hphase]
    rfl
  capture := hready.capture
  free := hready.free
  quiet := by
    rw [hready.idle]
    exact SysInputHandler.sendsNoState_nil
  texts := by
    rw [hready.idle, hready.inputs]
    rfl
  names := nofun

/-- A step of the task. -/
theorem types_task (hcr : cr.Lawful) {s : Service SK} {h : Typing} (hs : Types s h)
    {a : BleAction SK} {task : BleTask SK} (hcond : BleTask.TypesInputs cr pb s.task a)
    (hm : BleTask.Moves cr pb s.task a task) (hwf : WellFormed { s with task }) :
    Types { s with task }
      { h with messages := h.messages ++ messagesSent (BleTask.attempts cr pb s.task a) } where
  wellFormed := hwf
  entered := entered_of_moves hm hs.entered
  capture := by
    have hflag := (BleTask.published_step hcr hs.wellFormed.task hm).flag_eq .key
    exact hflag.trans hs.capture
  free := hs.free
  quiet := hs.quiet
  texts := by
    have htexts := BleTask.texts_step hs.entered hcond hm
    simp only [← hs.texts, ← htexts, List.append_assoc]
  names := hs.names

/-- The listener delivers an event. -/
theorem types_handleEvent {s : Service SK} {h : Typing} (hs : Types s h) {event : Event}
    {clipboard : SysInputHandler.ClipboardEnv} {handler : SysInputHandler}
    {pending : List HandlerOutput} (htyping : isTyping event = true) (hidle : s.pending = [])
    (hhandled : s.handler.handleEvent s.task.iface.appState event clipboard = (handler, pending))
    (hwf : WellFormed { s with handler, pending }) :
    Types { s with handler, pending } { h with presses := h.presses ++ pressesOf event } := by
  have htexts := hs.texts
  rw [hidle, List.flatMap_nil, List.append_nil] at htexts
  obtain ⟨key, hhid, ⟨name, hpress, hname, hone⟩ | hrelease⟩ := cases_of_isTyping htyping
  · obtain ⟨hfree, houtputs⟩ :=
      SysInputHandler.handleEvent_press hs.free hs.capture hpress hhid clipboard
    rw [hhandled] at hfree houtputs
    have hpresses : pressesOf event = [(key, name)] := by
      simp only [pressesOf, hpress, hname]
    simp only at houtputs
    refine ⟨hwf, hs.entered, hs.capture, hfree, ?_, ?_, ?_⟩
    · rw [houtputs]
      split_ifs
      · exact SysInputHandler.sendsNoState_trySend _
      · exact SysInputHandler.sendsNoState_nil
    -- the press is forwarded, and counted, exactly when it has a code
    · simp only [hpresses, List.filter_append, List.map_append, ← htexts, houtputs]
      by_cases hcode : (keyToAscii key).isSome = true
      · simp [hcode, coded, outputTexts, textsOf_press hpress hname]
      · simp [hcode, coded]
    · intro p hp
      simp only [hpresses, List.mem_append, List.mem_singleton] at hp
      rcases hp with hp | rfl
      · exact hs.names p hp
      · exact hone
  · obtain ⟨hfree, houtputs⟩ :=
      SysInputHandler.handleEvent_release hs.free s.task.iface.appState hrelease clipboard
    rw [hhandled] at hfree houtputs
    have hpresses : pressesOf event = [] := by simp only [pressesOf, hrelease]
    simp only at houtputs
    refine ⟨hwf, hs.entered, hs.capture, hfree, ?_, ?_, ?_⟩
    · rw [houtputs]
      exact SysInputHandler.sendsNoState_nil
    · simp [hpresses, houtputs, htexts]
    · simpa only [hpresses, List.append_nil] using hs.names

/-- The handler puts an event in the channel, which has room. -/
theorem types_trySend {s : Service SK} {h : Typing} (hs : Types s h) {event : InputEvent}
    {pending : List HandlerOutput} (hpending : s.pending = .trySend event :: pending)
    (hroom : s.task.HasRoom)
    (hwf : WellFormed { s with task := s.task.trySend event, pending }) :
    Types { s with task := s.task.trySend event, pending } h where
  wellFormed := hwf
  entered := by simpa using hs.entered
  capture := by simpa using hs.capture
  free := hs.free
  quiet := fun newState hmem => hs.quiet newState (hpending ▸ List.mem_cons_of_mem _ hmem)
  texts := by
    have htexts := hs.texts
    rw [hpending] at htexts
    simp only [BleTask.trySend, if_pos hroom]
    simpa [outputTexts] using htexts
  names := hs.names

/-- What is typed while nothing else is, and every send succeeds. -/
theorem types_of_reachable (hcr : cr.Lawful) {s : Service SK} (hs : (service cr pb).Reachable s)
    (hready : ReadyToType s) {p : Service SK × Typing}
    (h : (withTyping cr pb s).ReachableVia (fun p a => OnlyTypes cr pb p.1 a) p) :
    Types p.1 p.2 := by
  refine h.invariant_withHistory ?_ fun s h a t hs ⟨_, hcond⟩ hst => ?_
  · rintro _ rfl
    exact types_start (wellFormed_of_reachable hcr hs) hready
  have hm : Moves cr pb s a t := moves_of_step hst
  have hwf := wellFormed_step hcr hs.wellFormed hm
  cases hm with
  | task hm => exact types_task hcr hs hcond hm hwf
  | handleEvent hidle hhandled => exact types_handleEvent hs hcond hidle hhandled hwf
  -- no state is sent back while keys are typed
  | updateState hpending => exact absurd (hpending ▸ List.mem_cons_self) (hs.quiet _)
  | trySend hpending => exact types_trySend hs hpending hcond hwf

/-- From any state in the loop of `run` in which key capture is on, clipboard capture off, no
modifier held and the input channel empty, over every sequence of key events of keys without a HID
code, each press carrying one printable ASCII character, and every interleaving in which the device
is authenticated, nothing else is typed, the channel has room and every send succeeds: once all has
been sent, what was typed is what was pressed exactly when `key_to_ascii` knows every key that was
pressed. -/
theorem typed_iff (hcr : cr.Lawful) {s : Service SK} (hs : (service cr pb).Reachable s)
    (hready : ReadyToType s) {p : Service SK × Typing}
    (h : (withTyping cr pb s).ReachableVia (fun p a => OnlyTypes cr pb p.1 a) p)
    (hpending : p.1.pending = []) (hinputs : p.1.task.inputs = []) :
    typed p.2.messages = typed (p.2.presses.map Prod.snd) ↔
      ∀ press ∈ p.2.presses, (keyToAscii press.1).isSome = true := by
  have htypes := types_of_reachable hcr hs hready h
  have htexts := htypes.texts
  rw [hpending, hinputs, List.flatMap_nil, List.flatMap_nil, List.append_nil,
    List.append_nil] at htexts
  rw [htexts]
  exact typed_filter_iff htypes.names

/-- A key event. -/
def keyEvent (eventType : EventType) (name : Option String) : ServiceAction UInt8 :=
  .handleEvent ⟨0, name, eventType⟩ .noText

/-- A device is connected, paired and challenged, and Ctrl+Alt+C switches key capture on. -/
def readyRun : List (ServiceAction UInt8) :=
  (Sample.connectRun ++ Sample.pairRun 3 5 ++ Sample.challengeRun [9]).map .task ++
    Sample.modifiersRun ++ [Sample.press .keyC, .output] ++
    [keyEvent (.keyRelease .keyC) none, keyEvent (.keyRelease .alt) none,
      keyEvent (.keyRelease .controlLeft) none]

/-- The state is ready, evaluated. -/
def isReady (s : Service UInt8) : Bool :=
  s.task.phase = .running "a1" && s.pending = [] && s.task.inputs = [] &&
    s.task.iface.appState.enableKeyCapture && !s.task.iface.appState.enableClipboardCapture &&
    !s.handler.holds .controlLeft .controlRight && !s.handler.holds .alt .altGr &&
    !s.handler.holds .shiftLeft .shiftRight

theorem readyToType_of_isReady {s : Service UInt8} (h : s.isReady = true) : ReadyToType s := by
  simp only [isReady, Bool.and_eq_true, Bool.not_eq_true', decide_eq_true_eq] at h
  obtain ⟨⟨⟨⟨⟨⟨⟨hphase, hidle⟩, hinputs⟩, hcapture⟩, hclipboard⟩, hctrl⟩, halt⟩, hshift⟩ := h
  exact ⟨⟨_, hphase⟩, hidle, hinputs, hcapture, hclipboard, ⟨hctrl, halt, hshift⟩⟩

/-- Typing from the state the sample run ends in, to a state in which all has been sent: what was
pressed and sent. -/
def typingRun (run : List (ServiceAction UInt8)) : Option Typing := do
  let s ← (service sampleCrates Sample.prost).replay (fun _ _ => True) Sample.startService readyRun
  guard (s.isReady = true)
  let p ← (withTyping sampleCrates Sample.prost s).replay
    (fun p a => OnlyTypes sampleCrates Sample.prost p.1 a) (s, ⟨[], []⟩) run
  guard (p.1.pending = [] ∧ p.1.task.inputs = [])
  return p.2

theorem exists_typing {run : List (ServiceAction UInt8)} {typing : Typing}
    (hrun : typingRun run = some typing) :
    ∃ s p, (service sampleCrates Sample.prost).Reachable s ∧ ReadyToType s ∧
      (withTyping sampleCrates Sample.prost s).ReachableVia
        (fun p a => OnlyTypes sampleCrates Sample.prost p.1 a) p ∧
      p.1.pending = [] ∧ p.1.task.inputs = [] ∧ p.2 = typing := by
  simp only [typingRun, bind, pure, Option.bind_eq_some_iff, Option.guard_eq_some',
    Option.some.injEq] at hrun
  obtain ⟨s, hs, -, hready, p, hp, -, ⟨hpending, hinputs⟩, htyping⟩ := hrun
  have hinit : (withTyping sampleCrates Sample.prost s).ReachableVia
      (fun p a => OnlyTypes sampleCrates Sample.prost p.1 a) (s, ⟨[], []⟩) := .init ⟨rfl, rfl⟩
  exact ⟨s, p, .of_replay _ (.init ⟨_, 0, rfl⟩) hs, readyToType_of_isReady hready,
    hinit.of_replay _ hp, hpending, hinputs, htyping⟩

/-- The key A is pressed and typed. -/
theorem typed_iff_sample :
    ∃ p : Service UInt8 × Typing, p.2.presses = [(.keyA, "a")] ∧ typed p.2.messages = ['a'] := by
  have hrun : typingRun [keyEvent (.keyPress .keyA) (some "a"), .output,
      .task (.recvInput Sample.sendEnvs)] = some ⟨[(.keyA, "a")], ["a"]⟩ := by decide +kernel
  obtain ⟨s, p, hs, hready, hp, hpending, hinputs, htyping⟩ := exists_typing hrun
  have hsame := (typed_iff sampleCrates_lawful hs hready hp hpending hinputs).mpr (by
    rw [htyping]
    decide)
  refine ⟨p, by rw [htyping], hsame.trans ?_⟩
  rw [htyping]
  rfl

/-- The key of the full stop has no code: it is pressed, and nothing is typed. -/
theorem dot_not_typed :
    ¬ ∀ s, (service sampleCrates Sample.prost).Reachable s → ReadyToType s →
      ∀ p, (withTyping sampleCrates Sample.prost s).ReachableVia
          (fun p a => OnlyTypes sampleCrates Sample.prost p.1 a) p →
        p.1.pending = [] → p.1.task.inputs = [] →
        typed p.2.messages = typed (p.2.presses.map Prod.snd) := by
  intro hclaim
  have hrun : typingRun [keyEvent (.keyPress (.other 0)) (some ".")] =
      some ⟨[(.other 0, ".")], []⟩ := by decide +kernel
  obtain ⟨s, p, hs, hready, hp, hpending, hinputs, htyping⟩ := exists_typing hrun
  have hsame := hclaim s hs hready p hp hpending hinputs
  rw [htyping] at hsame
  cases hsame

end Service

end ToothPaste
