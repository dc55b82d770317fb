import ToothPaste.Service.Hotkeys

/-!
# Keyboard reports

With key capture on, a key that is pressed goes to the device as a report of the key and of the
modifiers that are held. The handler knows Ctrl, Shift and Alt; a Meta key has a code of its own,
but does not count as a modifier of another key.

* `reports_press_iff`: after every sequence of events, a key that is pressed is reported with the
  modifiers that are held, or forwarded as text where there are none, exactly when no Meta key is
  held, the clipboard can be opened if it has to be, and the channel has a place for the key.
* `press_with_meta`: with Meta held, A is forwarded as the letter.
-/

namespace ToothPaste

/-- The classes of modifiers. -/
inductive ModifierClass where
  | ctrl
  | shift
  | alt
  | metaKey
  deriving DecidableEq

namespace ModifierClass

/-- The left-hand key of the class. -/
def left : ModifierClass → Key
  | .ctrl => .controlLeft
  | .shift => .shiftLeft
  | .alt => .alt
  | .metaKey => .metaLeft

/-- The right-hand key of the class. -/
def right : ModifierClass → Key
  | .ctrl => .controlRight
  | .shift => .shiftRight
  | .alt => .altGr
  | .metaKey => .metaRight

/-- The classes of a `KeyCombo`. -/
def known : List ModifierClass := [.ctrl, .shift, .alt]

/-- All classes. -/
def all : List ModifierClass := [.ctrl, .shift, .alt, .metaKey]

end ModifierClass

/-- The key is a modifier. -/
def Key.IsModifier (key : Key) : Prop := ∃ c : ModifierClass, key = c.left ∨ key = c.right

/-- The code of a key: the one of `key_to_hid` or, if it has none, the one of `key_to_ascii`. -/
def Key.code (key : Key) : Option UInt8 := (keyToHid key).or (keyToAscii key)

/-- A key of the class is held after the events. -/
def classHeld (events : List EventType) (c : ModifierClass) : Bool :=
  SysInputHandler.isHeld c.left events || SysInputHandler.isHeld c.right events

/-- The classes of which a key is held after the events. -/
def heldClasses (events : List EventType) : List ModifierClass :=
  ModifierClass.all.filter (classHeld events)

/-- The left-hand codes of the classes. -/
def leftCodes (classes : List ModifierClass) : Bytes :=
  classes.filterMap fun c => keyToHid c.left

/-- A report of the code with the modifiers: the left-hand codes of the classes, each once, then
zeros up to the sixth byte, the code, and two zeros. -/
def IsReport (classes : List ModifierClass) (code : UInt8) (report : Bytes) : Prop :=
  ∃ modifiers, modifiers.Perm (leftCodes classes) ∧
    report = modifiers ++ List.replicate (5 - modifiers.length) 0 ++ [code, 0, 0]

/-- The report that is put in the input channel. -/
def InputEvent.report : InputEvent → Option Bytes
  | .keycode codes => some codes
  | _ => none

theorem leftCodes_filter_cons (held : ModifierClass → Bool) (c : ModifierClass)
    (classes : List ModifierClass) :
    leftCodes ((c :: classes).filter held) =
      (if held c = true then (keyToHid c.left).toList else []) ++
        leftCodes (classes.filter held) := by
  unfold leftCodes
  split_ifs with hheld
  · rw [List.filter_cons_of_pos hheld, List.filterMap_cons]
    cases keyToHid c.left <;> rfl
  · rw [List.filter_cons_of_neg hheld, List.nil_append]

/-- A report of all held classes has eight bytes. -/
theorem IsReport.length_eq {events : List EventType} {code : UInt8} {report : Bytes}
    (h : IsReport (heldClasses events) code report) : report.length = 8 := by
  obtain ⟨modifiers, hperm, rfl⟩ := h
  have hle : modifiers.length ≤ 4 := by
    calc modifiers.length = (leftCodes (heldClasses events)).length := hperm.length_eq
      _ ≤ (heldClasses events).length := List.length_filterMap_le ..
      _ ≤ ModifierClass.all.length := List.length_filter_le ..
  simp only [List.length_append, List.length_replicate, List.length_cons, List.length_nil]
  omega

namespace SysInputHandler

variable (h : SysInputHandler)

/-- The report the handler builds, with the three classes it knows. -/
def builtReport (held : ModifierClass → Bool) (code : UInt8) : Bytes :=
  let modifiers := leftCodes (ModifierClass.known.filter held)
  modifiers ++ List.replicate (5 - modifiers.length) 0 ++ [code, 0, 0]

theorem buildHidReport_eq (held : ModifierClass → Bool) (key : Key) :
    buildHidReport ⟨held .ctrl, held .alt, held .shift, key⟩ =
      key.code.map (builtReport held) := by
  have hmodifiers : leftCodes (ModifierClass.known.filter held) =
      (if held .ctrl = true then (keyToHid .controlLeft).toList else []) ++
      (if held .shift = true then (keyToHid .shiftLeft).toList else []) ++
      (if held .alt = true then (keyToHid .alt).toList else []) := by
    rw [ModifierClass.known, leftCodes_filter_cons, leftCodes_filter_cons, leftCodes_filter_cons,
      List.append_assoc]
    exact congrArg _ (congrArg _ (List.append_nil _))
  dsimp only [buildHidReport]
  rw [← hmodifiers]
  rfl

/-- The code of the Meta keys is in no report. -/
theorem metaLeft_not_mem_builtReport (held : ModifierClass → Bool) (n : ℕ) :
    (0x83 : UInt8) ∉ leftCodes (ModifierClass.known.filter held) ++ List.replicate n 0 := by
  intro hmem
  rcases List.mem_append.mp hmem with hmem | hmem
  · obtain ⟨c, hc, hcode⟩ := List.mem_filterMap.mp hmem
    have hthree := List.mem_of_mem_filter hc
    simp only [ModifierClass.known, List.mem_cons, List.not_mem_nil, or_false] at hthree
    rcases hthree with rfl | rfl | rfl <;> exact absurd hcode (by decide)
  · exact absurd (List.eq_of_mem_replicate hmem) (by decide)

/-- It is a report of all held classes exactly when no Meta key is held. -/
theorem isReport_builtReport_iff (held : ModifierClass → Bool) (code : UInt8) :
    IsReport (ModifierClass.all.filter held) code (builtReport held code) ↔
      held .metaKey = false := by
  have hall : leftCodes (ModifierClass.all.filter held) =
      leftCodes (ModifierClass.known.filter held) ++
        if held .metaKey = true then [0x83] else [] := by
    have hsplit : ModifierClass.all.filter held =
        ModifierClass.known.filter held ++ [ModifierClass.metaKey].filter held :=
      List.filter_append ModifierClass.known [.metaKey]
    rw [hsplit, leftCodes, List.filterMap_append]
    cases hmeta : held .metaKey <;> simp [leftCodes, hmeta, ModifierClass.left, keyToHid]
  rw [IsReport, hall]
  constructor
  · rintro ⟨modifiers, hperm, heq⟩
    by_contra hmeta
    rw [Bool.not_eq_false] at hmeta
    have hmem : (0x83 : UInt8) ∈ modifiers :=
      hperm.mem_iff.mpr (List.mem_append_right _ (by simp [hmeta]))
    apply metaLeft_not_mem_builtReport held
    rw [List.append_cancel_right heq]
    exact List.mem_append_left _ hmem
  · intro hmeta
    refine ⟨leftCodes (ModifierClass.known.filter held), ?_, rfl⟩
    simp [hmeta]

/-- With key capture on, a key that has a code is sent, as a report or as itself. -/
theorem forwardKey_of_code (held : ModifierClass → Bool)
    (hheld : ∀ c, h.holds c.left c.right = held c)
    (hcapture : h.currentState.enableKeyCapture = true) (event : Event) {key : Key} {code : UInt8}
    (hcode : key.code = some code) :
    h.forwardKey event key = [.trySend (
      if (held .ctrl || held .alt || held .shift) || (keyToHid key).isSome then
        .keycode (builtReport held code)
      else .rdevEvent event)] := by
  have hreport := buildHidReport_eq held key
  rw [hcode, Option.map_some] at hreport
  have hprintable : (keyToHid key).isSome = false → (keyToAscii key).isSome = true := by
    intro hnone
    rw [Option.isSome_eq_false_iff, Option.isNone_iff_eq_none] at hnone
    rw [Key.code, hnone, Option.none_or] at hcode
    rw [hcode]
    rfl
  have hctrl := hheld .ctrl
  have hshift := hheld .shift
  have halt := hheld .alt
  simp only [ModifierClass.left, ModifierClass.right] at hctrl hshift halt
  simp only [forwardKey, hcapture, if_true, hctrl, hshift, halt, hreport]
  split_ifs with hsend hplain
  · rfl
  · rfl
  · rw [Bool.or_eq_true, not_or, Bool.not_eq_true] at hsend
    exact absurd (hprintable (by simpa using hsend.2)) hplain

/-! ## Key presses -/

/-- What is sent of the clipboard before the key, where it is captured; `none` for a panic. -/
def clipboardSent (captures : Bool) (clipboard : ClipboardEnv) : Option (List InputEvent) :=
  if captures then
    match clipboard with
    | .unavailable => none
    | .noText => some []
    | .text contents => some [.clipboard contents]
  else some []

theorem upToPanic_idem (outputs : List HandlerOutput) :
    upToPanic (upToPanic outputs) = upToPanic outputs := by
  induction outputs with
  | nil => rfl
  | cons output rest ih =>
    cases output with
    | panic => rfl
    | updateState newState => exact congrArg (HandlerOutput.updateState newState :: ·) ih
    | trySend event => exact congrArg (HandlerOutput.trySend event :: ·) ih

/-- A hotkey puts nothing in the channel. -/
theorem sentInputs_hotkey (flags : List CaptureFlag) (state : AppState)
    (rest : List HandlerOutput) :
    sentInputs (flags.map (fun flag => .updateState (state.toggle flag)) ++ rest) =
      sentInputs rest := by
  induction flags with
  | nil => rfl
  | cons flag flags ih => exact ih

/-- What is sent of the clipboard is text. -/
theorem eq_clipboard_of_mem {captures : Bool} {clipboard : ClipboardEnv}
    {before : List InputEvent} (h : clipboardSent captures clipboard = some before) :
    ∀ event ∈ before, ∃ text, event = .clipboard text := by
  intro event hmem
  unfold clipboardSent at h
  split at h
  · cases clipboard with
    | unavailable => cases h
    | noText =>
      obtain rfl := Option.some.inj h
      cases hmem
    | text contents =>
      obtain rfl := Option.some.inj h
      exact ⟨contents, List.mem_singleton.mp hmem⟩
  · obtain rfl := Option.some.inj h
    cases hmem

/-- The clipboard goes before the key, where it is captured. -/
theorem sentInputs_clipboard (key : Key) (clipboard : ClipboardEnv) (input : InputEvent) :
    sentInputs (h.handleClipboardEvent key clipboard ++ [.trySend input]) =
      ((clipboardSent (h.currentState.enableClipboardCapture && key = .keyV &&
        h.holds .controlLeft .controlRight) clipboard).map (· ++ [input])).getD [] := by
  unfold handleClipboardEvent
  by_cases hcaptures : h.currentState.enableClipboardCapture = true ∧ key = .keyV ∧
      h.holds .controlLeft .controlRight = true
  · obtain ⟨hcapture, rfl, hctrl⟩ := hcaptures
    simp only [hcapture, hctrl, and_self, if_true, decide_true, Bool.and_self]
    cases clipboard <;> rfl
  · have hnone : (h.currentState.enableClipboardCapture && key = .keyV &&
        h.holds .controlLeft .controlRight) = false := by
      rw [← Bool.not_eq_true, Bool.and_eq_true, Bool.and_eq_true, decide_eq_true_eq, and_assoc]
      exact hcaptures
    rw [if_neg hcaptures, hnone]
    rfl

/-- A key press sends the clipboard, where it is captured, and then the key. -/
theorem sentInputs_keyPress (state : AppState) {event : Event} {key : Key}
    (hevent : event.eventType = .keyPress key) (clipboard : ClipboardEnv) {input : InputEvent}
    (hforward : (pressed { h with currentState := state } key).forwardKey event key =
      [.trySend input]) :
    sentInputs (h.handleEvent state event clipboard).2 =
      ((clipboardSent (state.enableClipboardCapture && key = .keyV &&
        (pressed { h with currentState := state } key).holds .controlLeft .controlRight)
        clipboard).map (· ++ [input])).getD [] := by
  have hsent : ∀ flags : List CaptureFlag,
      sentInputs (upToPanic (flags.map (fun flag => .updateState (state.toggle flag)) ++
        (pressed { h with currentState := state } key).handleClipboardEvent key clipboard ++
        [.trySend input])) =
      ((clipboardSent (state.enableClipboardCapture && key = .keyV &&
        (pressed { h with currentState := state } key).holds .controlLeft .controlRight)
        clipboard).map (· ++ [input])).getD [] := by
    intro flags
    rw [sentInputs, upToPanic_idem, ← sentInputs, List.append_assoc, sentInputs_hotkey]
    exact sentInputs_clipboard _ key clipboard input
  rw [handleEvent_keyPress h state hevent, hforward]
  split_ifs
  · exact hsent _
  · exact hsent []

end SysInputHandler

/-- A key release. -/
def Sample.release (key : Key) : ServiceAction UInt8 :=
  .handleEvent ⟨0, none, .keyRelease key⟩ .noText

namespace Service

open Sample (press release startService modifiersRun)
open SysInputHandler (ClipboardEnv)

variable {SK PK : Type} {cr : Crates SK PK} {pb : Prost}

/-- What is sent for the press of a key has one report, of the key and the modifiers held, or is
the event itself, where no modifier is held and the key has no code of its own. -/
def IsReported (events : List EventType) (event : Event) (key : Key) (code : UInt8)
    (sent : List InputEvent) : Prop :=
  if heldClasses events ≠ [] ∨ (keyToHid key).isSome = true then
    ∃ report, sent.filterMap InputEvent.report = [report] ∧
      IsReport (heldClasses events) code report
  else sent = [.rdevEvent event]

/-- Handling the press of a key puts in the input channel what has to be sent for it. -/
def ReportsPress (s : Service SK) (events : List EventType) (event : Event) (key : Key)
    (code : UInt8) (clipboard : ClipboardEnv) : Prop :=
  ∃ sent, (s.handle event clipboard).task.inputs = s.task.inputs ++ sent ∧
    IsReported events event key code sent

/-- The condition on the state and the events: no Meta key is held, the clipboard can be opened if
it is captured with the key, and there is a place for the key after it. -/
def CanReport (s : Service SK) (events : List EventType) (key : Key) (clipboard : ClipboardEnv) :
    Prop :=
  classHeld events .metaKey = false ∧
    ∃ before, SysInputHandler.clipboardSent (s.task.iface.appState.enableClipboardCapture &&
        key = .keyV && classHeld events .ctrl) clipboard = some before ∧
      before.length < s.task.places

/-- After the press of another key, the handler holds a modifier exactly when the history does. -/
theorem pressed_holds_iff {p : Service SK × List EventType} (h : (withEvents cr pb).Reachable p)
    {key : Key} (hmodifier : ¬ key.IsModifier) (state : AppState) (c : ModifierClass) :
    (SysInputHandler.pressed { p.1.handler with currentState := state } key).holds c.left c.right =
      classHeld p.2 c := by
  have hleft : c.left ≠ key := fun heq => hmodifier ⟨c, .inl heq.symm⟩
  have hright : c.right ≠ key := fun heq => hmodifier ⟨c, .inr heq.symm⟩
  rw [Bool.eq_iff_iff]
  simp only [SysInputHandler.holds, SysInputHandler.pressed, Finset.mem_insert, hleft, hright,
    false_or, mem_pressedKeys_iff h, classHeld, decide_eq_true_eq, Bool.or_eq_true]

theorem classHeld_eq_false {events : List EventType} (hnil : heldClasses events = [])
    (c : ModifierClass) : classHeld events c = false := by
  have hall : c ∈ ModifierClass.all := by cases c <;> decide
  simpa using List.filter_eq_nil_iff.mp hnil c hall

/-- A modifier the handler knows, or no modifier: what decides between a report and text. -/
theorem heldClasses_ne_nil_iff {events : List EventType}
    (hmeta : classHeld events .metaKey = false) :
    heldClasses events ≠ [] ↔
      (classHeld events .ctrl || classHeld events .alt || classHeld events .shift) = true := by
  simp only [heldClasses, ne_eq, List.filter_eq_nil_iff, ModifierClass.all, List.mem_cons,
    List.not_mem_nil, or_false, forall_eq_or_imp, forall_eq, hmeta, Bool.or_eq_true]
  tauto

/-- Texts of the clipboard are no reports. -/
theorem filterMap_report_eq_nil {texts : List InputEvent}
    (hall : ∀ event ∈ texts, ∃ text, event = .clipboard text) :
    texts.filterMap InputEvent.report = [] := by
  refine List.filterMap_eq_nil_iff.mpr fun event hmem => ?_
  obtain ⟨text, rfl⟩ := hall event hmem
  rfl

/-- The clipboard alone is not what has to be sent. -/
theorem not_isReported_texts {events : List EventType} {event : Event} {key : Key} {code : UInt8}
    {texts : List InputEvent} (hall : ∀ event ∈ texts, ∃ text, event = .clipboard text) :
    ¬ IsReported events event key code texts := by
  unfold IsReported
  split_ifs
  · rintro ⟨report, hreport, -⟩
    rw [filterMap_report_eq_nil hall] at hreport
    cases hreport
  · rintro rfl
    obtain ⟨text, heq⟩ := hall _ (List.mem_singleton_self _)
    cases heq

/-- What the handler sends is what has to be sent exactly when no Meta key is held. -/
theorem isReported_iff {events : List EventType} (event : Event) {key : Key} (code : UInt8)
    {capture : Bool} {clipboard : ClipboardEnv} {before : List InputEvent}
    (hbefore : SysInputHandler.clipboardSent (capture && key = .keyV && classHeld events .ctrl)
      clipboard = some before) :
    IsReported events event key code (before ++ [
      if (classHeld events .ctrl || classHeld events .alt || classHeld events .shift) ||
          (keyToHid key).isSome then
        .keycode (SysInputHandler.builtReport (classHeld events) code)
      else .rdevEvent event]) ↔ classHeld events .metaKey = false := by
  have hnone := filterMap_report_eq_nil (SysInputHandler.eq_clipboard_of_mem hbefore)
  have hbuilt := SysInputHandler.isReport_builtReport_iff (classHeld events) code
  unfold IsReported
  split_ifs with hmust hsends hsends
  · rw [List.filterMap_append, hnone]
    exact ⟨fun ⟨report, heq, hreport⟩ => hbuilt.mp (List.singleton_inj.mp heq ▸ hreport),
      fun hmeta => ⟨_, rfl, hbuilt.mpr hmeta⟩⟩
  -- only a Meta key is held, and the key goes out as text
  · rw [List.filterMap_append, hnone]
    refine iff_of_false (fun ⟨report, heq, _⟩ => nomatch heq) fun hmeta => hsends ?_
    rw [Bool.or_eq_true]
    exact hmust.imp_left (heldClasses_ne_nil_iff hmeta).mp
  · have hmeta := classHeld_eq_false (not_not.mp (not_or.mp hmust).1) .metaKey
    rw [Bool.or_eq_true, ← heldClasses_ne_nil_iff hmeta] at hsends
    exact absurd hsends hmust
  -- nothing is held, so that the clipboard is not captured
  · have hnil := not_not.mp (not_or.mp hmust).1
    rw [classHeld_eq_false hnil, Bool.and_false] at hbefore
    obtain rfl := Option.some.inj hbefore
    exact iff_of_true rfl (classHeld_eq_false hnil .metaKey)

/-- After every sequence of events, whatever else the service has done, with key capture on, for
every key that has a code and is no modifier: its press is reported with the modifiers that are
held, or forwarded as text if there are none and the key has no code of its own, exactly when no
Meta key is held, the clipboard can be opened if it is captured, and the channel has a place for
the key. The room is that at the start of the event, which is handled without a break. -/
theorem reports_press_iff {p : Service SK × List EventType} (h : (withEvents cr pb).Reachable p)
    {event : Event} {key : Key} {code : UInt8} (hevent : event.eventType = .keyPress key)
    (hcapture : p.1.task.iface.appState.enableKeyCapture = true) (hmodifier : ¬ key.IsModifier)
    (hcode : key.code = some code) (clipboard : ClipboardEnv) :
    ReportsPress p.1 p.2 event key code clipboard ↔ CanReport p.1 p.2 key clipboard := by
  obtain ⟨s, events⟩ := p
  have hheld := pressed_holds_iff h hmodifier s.task.iface.appState
  have hforward :=
    SysInputHandler.forwardKey_of_code _ (classHeld events) hheld hcapture event hcode
  have hsent := s.handler.sentInputs_keyPress s.task.iface.appState hevent clipboard hforward
  have hctrl := hheld .ctrl
  simp only [ModifierClass.left, ModifierClass.right] at hctrl
  rw [hctrl] at hsent
  have hinputs : ∀ sent, (s.handle event clipboard).task.inputs = s.task.inputs ++ sent ↔
      (SysInputHandler.sentInputs (s.handler.handleEvent s.task.iface.appState event
        clipboard).2).take s.task.places = sent := fun sent => by
    rw [handle, inputs_perform]
    exact List.append_right_inj s.task.inputs
  simp only [ReportsPress, hinputs, hsent, exists_eq_left', CanReport]
  cases hbefore : SysInputHandler.clipboardSent (s.task.iface.appState.enableClipboardCapture &&
      key = .keyV && classHeld events .ctrl) clipboard with
  -- the handler panics before it sends anything
  | none =>
    refine iff_of_false (not_isReported_texts fun event hmem => ?_) ?_
    · cases List.mem_of_mem_take hmem
    · rintro ⟨_, _, heq, -⟩
      cases heq
  | some before =>
    have htexts := SysInputHandler.eq_clipboard_of_mem hbefore
    simp only [Option.map_some, Option.getD_some, Option.some.injEq, exists_eq_left']
    by_cases hplace : before.length < s.task.places
    · rw [List.take_of_length_le (by simpa using Nat.succ_le_of_lt hplace),
        isReported_iff event code hbefore]
      exact (and_iff_left hplace).symm
    -- there is no place for the key
    · rw [List.take_append_of_le_length (not_lt.mp hplace)]
      refine iff_of_false (not_isReported_texts fun event hmem => ?_) fun h => hplace h.2
      exact htexts event (List.mem_of_mem_take hmem)

theorem not_isModifier_keyA : ¬ Key.IsModifier .keyA := by
  rintro ⟨c, hc⟩
  cases c <;> exact absurd hc (by decide)

/-- Ctrl+Alt+C has switched key capture on; A is reported with Ctrl and Alt. -/
theorem reports_press_sample : ∃ p : Service UInt8 × List EventType,
    ReportsPress p.1 p.2 ⟨0, none, .keyPress .keyA⟩ .keyA 0x61 .noText := by
  have hrun : ((withEvents sampleCrates Sample.prost).replay (fun _ _ => True)
      (startService, []) (modifiersRun ++ [press .keyC, .output])).map (fun p =>
        (p.2, p.1.task.iface.appState.enableKeyCapture,
          p.1.task.iface.appState.enableClipboardCapture, p.1.task.places)) =
      some ([.keyPress .controlLeft, .keyPress .alt, .keyPress .keyC], true, false, 50) := by
    decide +kernel
  obtain ⟨p, hp, hfacts⟩ := Option.map_eq_some_iff.mp hrun
  simp only [Prod.mk.injEq] at hfacts
  obtain ⟨hevents, hcapture, hclipboard, hplaces⟩ := hfacts
  refine ⟨p, (reports_press_iff (reachable_of_run hp) rfl hcapture not_isModifier_keyA rfl
    .noText).mpr ⟨?_, [], ?_, ?_⟩⟩
  · rw [hevents]
    decide
  · rw [hclipboard]
    rfl
  · rw [hplaces]
    decide

/-- Key capture is switched on, and then only Meta is held: A is forwarded as the letter, and no
report is sent. -/
theorem press_with_meta :
    ¬ ∀ p, (withEvents sampleCrates Sample.prost).Reachable p → p.1.pending = [] →
      ∀ event key code clipboard, event.eventType = .keyPress key →
        p.1.task.iface.appState.enableKeyCapture = true → ¬ key.IsModifier →
        key.code = some code → clipboard ≠ .unavailable → 2 ≤ p.1.task.places →
        ReportsPress p.1 p.2 event key code clipboard := by
  intro hclaim
  have hrun : ((withEvents sampleCrates Sample.prost).replay (fun _ _ => True)
      (startService, []) (modifiersRun ++ [press .keyC, .output, release .controlLeft,
        release .alt, press .metaLeft, .output])).map (fun p =>
        (heldClasses p.2, p.1.pending.length, p.1.task.iface.appState.enableKeyCapture,
          p.1.task.places, (p.1.task.inputs.filterMap InputEvent.report).length,
          ((p.1.handle ⟨0, none, .keyPress .keyA⟩ .noText).task.inputs.filterMap
            InputEvent.report).length)) =
      some ([.metaKey], 0, true, 49, 1, 1) := by
    decide +kernel
  obtain ⟨p, hp, hfacts⟩ := Option.map_eq_some_iff.mp hrun
  simp only [Prod.mk.injEq] at hfacts
  obtain ⟨hheld, hpending, hcapture, hplaces, hbefore, hafter⟩ := hfacts
  obtain ⟨sent, hsent, hreported⟩ := hclaim p (reachable_of_run hp)
    (List.eq_nil_of_length_eq_zero hpending) ⟨0, none, .keyPress .keyA⟩ .keyA 0x61 .noText rfl
    hcapture not_isModifier_keyA rfl nofun (by rw [hplaces]; decide)
  rw [IsReported, hheld, if_pos (.inl (by decide))] at hreported
  obtain ⟨report, hreport, -⟩ := hreported
  -- what is sent for A holds no report
  rw [hsent, List.filterMap_append, List.length_append, hbefore, hreport] at hafter
  cases hafter

end Service

end ToothPaste
