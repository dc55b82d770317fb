import Mathlib.Algebra.Order.Ring.Rat
import ToothPaste.Input.Runs
import ToothPaste.Lib.Accumulator

/-!
# Mouse motion

What the input handler forwards of the motion of the mouse, over whole runs of events. On each
axis the handler is an accumulator: with mouse capture on, every movement is taken in, and what is
forwarded is given out.

* `motion_conserved`: with mouse capture on throughout, what was forwarded and what is left account
  for the motion, as signed amounts and as absolute ones.
* `stretch_forwarded_iff`: the handler goes on accumulating while capture is off, and a new handler
  takes the mouse to be in the origin. So a stretch with capture on forwards its own motion exactly
  when nothing is left from before it and, where no position was observed before it, its first
  position is the origin.
-/

namespace ToothPaste

open Accumulator (Conserves)

/-- The position an event reports. -/
def EventType.position : EventType → Option (ℚ × ℚ)
  | .mouseMove x y => some (x, y)
  | _ => none

/-- The movements that are forwarded. -/
def movements (outputs : List HandlerOutput) : List (ℚ × ℚ) :=
  (rdevEvents outputs).filterMap fun event => event.eventType.position

/-- The positions that are observed. -/
def positions (handlings : List Handling) : List (ℚ × ℚ) :=
  handlings.filterMap fun handling => handling.event.eventType.position

/-- How far the mouse went from each position to the next. -/
def displacements (last : ℚ × ℚ) : List (ℚ × ℚ) → List (ℚ × ℚ)
  | [] => []
  | position :: rest => (position - last) :: displacements position rest

/-- The axes of the screen. -/
inductive Axis where
  | x
  | y

/-- A coordinate. -/
def Axis.coord : Axis → ℚ × ℚ → ℚ
  | .x => Prod.fst
  | .y => Prod.snd

@[simp]
theorem Axis.coord_zero (axis : Axis) : axis.coord (0, 0) = 0 := by
  cases axis <;> rfl

@[simp]
theorem Axis.coord_sub (axis : Axis) (p q : ℚ × ℚ) :
    axis.coord (p - q) = axis.coord p - axis.coord q := by
  cases axis <;> rfl

/-- Two pairs are equal when their coordinates are. -/
theorem Axis.ext_coord {p q : ℚ × ℚ} (h : ∀ axis : Axis, axis.coord p = axis.coord q) : p = q :=
  Prod.ext (h .x) (h .y)

@[simp]
theorem movements_append (outputs outputs' : List HandlerOutput) :
    movements (outputs ++ outputs') = movements outputs ++ movements outputs' := by
  rw [movements, rdevEvents_append, List.filterMap_append]
  rfl

theorem positions_cons (handling : Handling) (rest : List Handling) :
    positions (handling :: rest) =
      handling.event.eventType.position.toList ++ positions rest := by
  rw [positions, List.filterMap_cons]
  cases handling.event.eventType.position <;> rfl

/-- The displacements add up to the way from the first position to the last. -/
theorem sum_displacements (axis : Axis) (last : ℚ × ℚ) (ps : List (ℚ × ℚ)) :
    ((displacements last ps).map axis.coord).sum =
      axis.coord (ps.getLastD last) - axis.coord last := by
  induction ps generalizing last with
  | nil => simp [displacements]
  | cons position rest ih =>
    rw [displacements, List.map_cons, List.sum_cons, ih, Axis.coord_sub, List.getLastD_cons,
      sub_add_sub_cancel']

namespace SysInputHandler

variable (h : SysInputHandler)

/-! ## One event -/

/-- The check for a change of direction is that the two amounts are of opposite signs. -/
theorem directionChanged_iff (delta accumulated : ℚ) :
    directionChanged delta accumulated = true ↔ Accumulator.Opposite delta accumulated := by
  simp [directionChanged, Accumulator.Opposite]

/-- With capture on, all that was accumulated is given out. -/
theorem forwardDelta_conserves (eventTime : ℤ) (axis : Axis) :
    Conserves (axis.coord h.accumulatedDelta) []
      ((movements (h.forwardDelta eventTime true fun delta => .mouseMove delta.1 delta.2)).map
        axis.coord) 0 := by
  by_cases hzero : h.accumulatedDelta = (0, 0)
  -- nothing was accumulated, and nothing is sent
  · have hsent : h.forwardDelta eventTime true (fun delta => .mouseMove delta.1 delta.2) = [] := by
      simp [forwardDelta, hzero]
    rw [hsent, hzero, Axis.coord_zero]
    exact .refl 0
  · have hne : h.accumulatedDelta.1 ≠ 0 ∨ h.accumulatedDelta.2 ≠ 0 := by
      rw [ne_eq, ne_eq, ← not_and_or]
      exact fun hboth => hzero (Prod.ext hboth.1 hboth.2)
    rw [forwardDelta, if_pos ⟨hne, rfl⟩]
    exact .flush _

/-- With capture on, a movement is taken in, after what was accumulated is given out if it was in
another direction. -/
theorem processAccumulatedEvent_conserves (delta : ℚ × ℚ) (eventTime : ℤ)
    (debounceThresholdMs : ℕ) (axis : Axis) :
    Conserves (axis.coord h.accumulatedDelta) [axis.coord delta]
      ((movements (h.processAccumulatedEvent delta eventTime debounceThresholdMs true fun delta =>
        .mouseMove delta.1 delta.2).2).map axis.coord)
      (axis.coord (h.processAccumulatedEvent delta eventTime debounceThresholdMs true fun delta =>
        .mouseMove delta.1 delta.2).1.accumulatedDelta) := by
  unfold processAccumulatedEvent
  split
  · have hrestart := (h.forwardDelta_conserves eventTime axis).trans (.start (axis.coord delta))
    rwa [List.append_nil, List.nil_append] at hrestart
  next hsame =>
    rw [Bool.or_eq_true, directionChanged_iff, directionChanged_iff, not_or] at hsame
    have hadd : Conserves (axis.coord h.accumulatedDelta) [axis.coord delta] []
        (axis.coord (h.accumulatedDelta.1 + delta.1, h.accumulatedDelta.2 + delta.2)) := by
      cases axis with
      | x => exact .add hsame.1
      | y => exact .add hsame.2
    dsimp only
    split
    · have hflush := hadd.trans (forwardDelta_conserves
        { h with accumulatedDelta :=
          (h.accumulatedDelta.1 + delta.1, h.accumulatedDelta.2 + delta.2) } eventTime axis)
      rw [List.append_nil, List.nil_append] at hflush
      rwa [Axis.coord_zero]
    · exact hadd

/-- The position is tracked whether capture is on or not. -/
theorem handleEvent_mouseLastPosition (state : AppState) (event : Event)
    (clipboard : ClipboardEnv) :
    (h.handleEvent state event clipboard).1.mouseLastPosition =
      event.eventType.position.getD h.mouseLastPosition := by
  obtain ⟨time, name, eventType⟩ := event
  cases eventType with
  | mouseMove x y =>
    simp only [handleEvent, handleMouseMove, processAccumulatedEvent, EventType.position,
      Option.getD_some]
    split_ifs <;> rfl
  | keyPress | keyRelease | buttonPress | buttonRelease | wheel => rfl

/-- An event that reports no position leaves what is accumulated alone. -/
theorem handleEvent_accumulatedDelta (state : AppState) {event : Event}
    (hevent : event.eventType.position = none) (clipboard : ClipboardEnv) :
    (h.handleEvent state event clipboard).1.accumulatedDelta = h.accumulatedDelta := by
  obtain ⟨time, name, eventType⟩ := event
  cases eventType with
  | mouseMove x y => cases hevent
  | keyPress | keyRelease | buttonPress | buttonRelease | wheel => rfl

/-- An event that reports no position sends no movement. -/
theorem movements_handleEvent (state : AppState) {event : Event}
    (hevent : event.eventType.position = none) (clipboard : ClipboardEnv) :
    movements (h.handleEvent state event clipboard).2 = [] := by
  have hmove : ∀ x y, event.eventType ≠ .mouseMove x y := by
    intro x y heq
    rw [heq] at hevent
    cases hevent
  refine List.filterMap_eq_nil_iff.mpr fun event' hmem => ?_
  rw [h.eq_of_mem_rdevEvents hmove hmem, hevent]

/-- With capture on, an event takes in the way to the position it reports, if any. -/
theorem handleEvent_conserves {state : AppState} (hcapture : state.enableMouseCapture = true)
    (event : Event) (clipboard : ClipboardEnv) (axis : Axis) :
    Conserves (axis.coord h.accumulatedDelta)
      ((displacements h.mouseLastPosition event.eventType.position.toList).map axis.coord)
      ((movements (h.handleEvent state event clipboard).2).map axis.coord)
      (axis.coord (h.handleEvent state event clipboard).1.accumulatedDelta) := by
  cases hevent : event.eventType.position with
  | none =>
    rw [h.movements_handleEvent state hevent, h.handleEvent_accumulatedDelta state hevent]
    exact .refl _
  | some position =>
    obtain ⟨time, name, eventType⟩ := event
    cases eventType with
    | mouseMove x y =>
      obtain rfl := Option.some.inj hevent
      simp only [handleEvent, handleMouseMove, hcapture]
      exact processAccumulatedEvent_conserves
        { h with currentState := state, mouseLastPosition := (x, y) }
        ((x, y) - h.mouseLastPosition) time h.mouseDebounceThresholdMs axis
    | keyPress | keyRelease | buttonPress | buttonRelease | wheel => cases hevent

/-! ## Runs -/

/-- The handler knows the last position that was observed. -/
theorem handleEvents_mouseLastPosition (handlings : List Handling) :
    (h.handleEvents handlings).1.mouseLastPosition =
      (positions handlings).getLastD h.mouseLastPosition := by
  induction handlings generalizing h with
  | nil => rfl
  | cons handling rest ih =>
    rw [handleEvents, ih, handleEvent_mouseLastPosition, positions_cons]
    cases handling.event.eventType.position with
    | none => rfl
    | some position => exact List.getLastD_cons.symm

/-- Before a position is observed, nothing is accumulated. -/
theorem handleEvents_accumulatedDelta {handlings : List Handling}
    (hnone : positions handlings = []) :
    (h.handleEvents handlings).1.accumulatedDelta = h.accumulatedDelta := by
  induction handlings generalizing h with
  | nil => rfl
  | cons handling rest ih =>
    rw [positions_cons, List.append_eq_nil_iff, Option.toList_eq_nil_iff] at hnone
    rw [handleEvents, ih _ hnone.2, h.handleEvent_accumulatedDelta _ hnone.1]

/-- With capture on throughout, the way from each position to the next is taken in. -/
theorem handleEvents_conserves {handlings : List Handling}
    (hcapture : ∀ handling ∈ handlings, handling.state.enableMouseCapture = true) (axis : Axis) :
    Conserves (axis.coord h.accumulatedDelta)
      ((displacements h.mouseLastPosition (positions handlings)).map axis.coord)
      ((movements (h.handleEvents handlings).2).map axis.coord)
      (axis.coord (h.handleEvents handlings).1.accumulatedDelta) := by
  induction handlings generalizing h with
  | nil => exact .refl _
  | cons handling rest ih =>
    have hhead := h.handleEvent_conserves (hcapture handling List.mem_cons_self) handling.event
      handling.clipboard axis
    have hrest := ih (h.handleEvent handling.state handling.event handling.clipboard).1
      fun x hx => hcapture x (List.mem_cons_of_mem _ hx)
    have hall := hhead.trans hrest
    rw [handleEvent_mouseLastPosition] at hall
    rw [handleEvents, movements_append, List.map_append, positions_cons]
    -- the displacements of the rest start from the position of this event
    cases hposition : handling.event.eventType.position <;> rw [hposition] at hall <;> exact hall

/-- With capture on throughout, what is forwarded and what is left are the motion, on top of what
was left from before. -/
theorem handleEvents_signed {handlings : List Handling}
    (hcapture : ∀ handling ∈ handlings, handling.state.enableMouseCapture = true) (axis : Axis) :
    ((movements (h.handleEvents handlings).2).map axis.coord).sum +
        axis.coord (h.handleEvents handlings).1.accumulatedDelta =
      axis.coord h.accumulatedDelta +
        (axis.coord ((positions handlings).getLastD h.mouseLastPosition) -
          axis.coord h.mouseLastPosition) := by
  rw [← sum_displacements]
  exact (h.handleEvents_conserves hcapture axis).signed

/-- Whatever the handler's state is, in every sequence of events handled with mouse capture on, on
each axis: what was forwarded and what is accumulated at the end are what was accumulated at the
start and the way from the last position observed before to the last one observed in the sequence;
and the same holds of the absolute values, with the way from each position to the next. -/
theorem motion_conserved {handlings : List Handling}
    (hcapture : ∀ handling ∈ handlings, handling.state.enableMouseCapture = true) (axis : Axis) :
    ((movements (h.handleEvents handlings).2).map axis.coord).sum +
        axis.coord (h.handleEvents handlings).1.accumulatedDelta =
      axis.coord h.accumulatedDelta +
        (axis.coord ((positions handlings).getLastD h.mouseLastPosition) -
          axis.coord h.mouseLastPosition) ∧
    ((movements (h.handleEvents handlings).2).map fun delta => |axis.coord delta|).sum +
        |axis.coord (h.handleEvents handlings).1.accumulatedDelta| =
      |axis.coord h.accumulatedDelta| +
        ((displacements h.mouseLastPosition (positions handlings)).map fun delta =>
          |axis.coord delta|).sum := by
  have habsolute := (h.handleEvents_conserves hcapture axis).absolute
  rw [List.map_map, List.map_map] at habsolute
  exact ⟨h.handleEvents_signed hcapture axis, habsolute⟩

/-- A movement, handled with mouse capture on or off. -/
def moved (capture : Bool) (time : ℤ) (x y : ℚ) : Handling :=
  ⟨{ AppState.initial with enableMouseCapture := capture }, ⟨time, none, .mouseMove x y⟩, .noText⟩

/-- The mouse goes to the right, back, and forth again at a time before the last one. -/
def backAndForth : List Handling := [moved true 5 3 1, moved true 9 1 4, moved true 2 2 4]

/-- The mouse has moved to (2, 4) from the origin, over 6 units from left to right and back. -/
theorem motion_conserved_sample :
    ((movements ((new AppState.initial 0).handleEvents backAndForth).2).map Axis.x.coord).sum +
        Axis.x.coord ((new AppState.initial 0).handleEvents backAndForth).1.accumulatedDelta =
      0 + (2 - 0) ∧
    ((movements ((new AppState.initial 0).handleEvents backAndForth).2).map fun delta =>
        |Axis.x.coord delta|).sum +
        |Axis.x.coord ((new AppState.initial 0).handleEvents backAndForth).1.accumulatedDelta| =
      |0| + (|3 - 0| + (|1 - 3| + (|2 - 1| + 0))) := by
  have hcapture : ∀ handling ∈ backAndForth, handling.state.enableMouseCapture = true := by decide
  exact motion_conserved (new AppState.initial 0) hcapture .x

/-! ## Stretches -/

/-- Where the mouse is when a stretch starts: in the last position observed before it or, if there
is none, in the first one of the stretch. -/
def stretchStart (before stretch : List Handling) : Option (ℚ × ℚ) :=
  (positions before).getLast?.or (positions stretch).head?

/-- The last position of a stretch. -/
def stretchEnd (before stretch : List Handling) : Option (ℚ × ℚ) :=
  (positions stretch).getLast?.or (stretchStart before stretch)

/-- What is forwarded in a stretch and what is left after it are the way from its start to its
end. -/
def ForwardsOwnMotion (h : SysInputHandler) (before stretch : List Handling) : Prop :=
  ∀ start stop, stretchStart before stretch = some start → stretchEnd before stretch = some stop →
    ∀ axis : Axis,
      ((movements ((h.handleEvents before).1.handleEvents stretch).2).map axis.coord).sum +
          axis.coord ((h.handleEvents before).1.handleEvents stretch).1.accumulatedDelta =
        axis.coord stop - axis.coord start

/-- Nothing is left from before the stretch and, where no position was observed before it, its
first position is the origin. -/
def StartsAfresh (h : SysInputHandler) (before stretch : List Handling) : Prop :=
  (h.handleEvents before).1.accumulatedDelta = (0, 0) ∧
    (positions before = [] → ∀ position, (positions stretch).head? = some position →
      position = (0, 0))

/-- In every run of a new handler, with capture switched on and off at any points, for every
stretch of events handled with capture on: it forwards its own motion exactly when it starts
afresh. -/
theorem stretch_forwarded_iff (state : AppState) (now : ℤ) (before : List Handling)
    {stretch : List Handling}
    (hcapture : ∀ handling ∈ stretch, handling.state.enableMouseCapture = true) :
    ForwardsOwnMotion (new state now) before stretch ↔
      StartsAfresh (new state now) before stretch := by
  have hsigned := handleEvents_signed ((new state now).handleEvents before).1 hcapture
  have hlast := (new state now).handleEvents_mouseLastPosition before
  unfold ForwardsOwnMotion StartsAfresh stretchEnd stretchStart
  rw [List.getLastD_eq_getLast?] at hlast
  cases hbefore : (positions before).getLast? with
  | some start =>
    -- the handler knows where the stretch starts, and what is left is all that is in the way
    have hne : positions before ≠ [] := fun hnil => by simp [hnil] at hbefore
    rw [hbefore] at hlast
    rw [and_iff_left fun hnil => absurd hnil hne]
    have hend : (positions stretch).getLast?.or (some start) =
        some ((positions stretch).getLastD start) := by
      rw [List.getLastD_eq_getLast?]
      cases (positions stretch).getLast? <;> rfl
    simp only [Option.some_or, hend, hsigned, hlast, Option.getD_some]
    constructor
    · intro hall
      exact Axis.ext_coord fun axis => by
        simpa using hall start ((positions stretch).getLastD start) rfl rfl axis
    · rintro hzero _ _ ⟨⟩ ⟨⟩ axis
      rw [hzero, Axis.coord_zero, zero_add]
  | none =>
    -- nothing is left, and the way is measured from the origin
    have hnil : positions before = [] := List.getLast?_eq_none_iff.mp hbefore
    have hzero : ((new state now).handleEvents before).1.accumulatedDelta = (0, 0) :=
      (new state now).handleEvents_accumulatedDelta hnil
    have horigin : ((new state now).handleEvents before).1.mouseLastPosition = (0, 0) := by
      rw [hlast, hbefore]
      rfl
    rw [and_iff_right hzero]
    cases hstretch : positions stretch with
    | nil => simp [hnil]
    | cons first rest =>
      simp only [hsigned, hzero, horigin, hstretch, hnil, Option.none_or, List.head?_cons,
        List.getLast?_cons, Option.some_or, List.getLastD_eq_getLast?, Option.getD_some,
        Axis.coord_zero, zero_add, sub_zero]
      constructor
      · rintro hall - _ ⟨⟩
        refine Axis.ext_coord fun axis => ?_
        rw [Axis.coord_zero]
        exact sub_eq_self.mp (hall first _ rfl rfl axis).symm
      · rintro hfirst _ _ ⟨⟩ ⟨⟩ axis
        rw [hfirst trivial first rfl, Axis.coord_zero, sub_zero]

/-- The mouse is observed in the origin, and then moves with capture on. -/
theorem stretch_forwarded_sample :
    ForwardsOwnMotion (new AppState.initial 0) [moved false 1 0 0] [moved true 2 5 0] :=
  (stretch_forwarded_iff AppState.initial 0 [moved false 1 0 0] (by decide)).mpr
    ⟨by decide +kernel, nofun⟩

/-- The mouse moves by 10 with capture off; soon after capture is switched on and it moves by 5. It
is the way of 15 that is forwarded. -/
theorem stretch_forwards_uncaptured :
    ¬ ∀ state now before stretch after,
      (∀ handling ∈ before ++ stretch ++ after, ∃ x y,
        handling.event.eventType = .mouseMove x y) →
      (∀ handling ∈ stretch, handling.state.enableMouseCapture = true) →
      (∀ handling ∈ before.getLast?, handling.state.enableMouseCapture = false) →
      (∀ handling ∈ after.head?, handling.state.enableMouseCapture = false) →
      ForwardsOwnMotion (new state now) before stretch := by
  intro hclaim
  have hmotion := hclaim AppState.initial 0 [moved false 1 10 0] [moved true 60000000 15 0] []
    (by simp [moved]) (by decide) (by decide) (by decide) (10, 0) (15, 0) rfl rfl .x
  revert hmotion
  decide +kernel

end SysInputHandler

end ToothPaste
