import Mathlib.Algebra.Group.Prod
import ToothPaste.Input.Motion
import ToothPaste.Lib.Windows

/-!
# How often motion is forwarded

A movement is gathered with those before it until the debounce threshold has passed since the last
time that motion was forwarded, or would have been; a change of direction forwards it at once.

* `moves_debounced`: in every run of a new handler in which the times of the movements are in order,
  apart from one for each change of direction, motion is forwarded no more than once for each
  threshold, and what is held back are the last movements, each less than the threshold ago.
-/

namespace ToothPaste

open Windows (Spaced)

/-- The movements: the time of each, and how far the mouse went from the position before it. -/
def motion (last : ℚ × ℚ) : List Handling → List (ℤ × ℚ × ℚ)
  | [] => []
  | handling :: rest =>
    match handling.event.eventType.position with
    | some position => (handling.event.time, position - last) :: motion position rest
    | none => motion last rest

/-- The times of the movements. -/
def moveTimes (handlings : List Handling) : List ℤ := (motion (0, 0) handlings).map Prod.fst

theorem map_fst_motion (last last' : ℚ × ℚ) (handlings : List Handling) :
    (motion last handlings).map Prod.fst = (motion last' handlings).map Prod.fst := by
  induction handlings generalizing last last' with
  | nil => rfl
  | cons handling rest ih =>
    rw [motion, motion]
    cases handling.event.eventType.position with
    | none => exact ih last last'
    | some position => rfl

theorem moveTimes_cons {handling : Handling} {position : ℚ × ℚ}
    (hmove : handling.event.eventType.position = some position) (rest : List Handling) :
    moveTimes (handling :: rest) = handling.event.time :: moveTimes rest := by
  rw [moveTimes, motion, hmove]
  exact congrArg _ (map_fst_motion position (0, 0) rest)

theorem moveTimes_cons_other {handling : Handling}
    (hmove : handling.event.eventType.position = none) (rest : List Handling) :
    moveTimes (handling :: rest) = moveTimes rest := by
  rw [moveTimes, motion, hmove]
  rfl

namespace SysInputHandler

variable (h : SysInputHandler)

/-- The threshold in nanoseconds, which the times of events are in. -/
def thresholdNs : ℤ := h.mouseDebounceThresholdMs * 1000000

/-- The event is a movement against the direction of what is accumulated. -/
def turnsAt (event : Event) : Bool :=
  match event.eventType.position with
  | some position =>
    directionChanged (position.1 - h.mouseLastPosition.1) h.accumulatedDelta.1 ||
      directionChanged (position.2 - h.mouseLastPosition.2) h.accumulatedDelta.2
  | none => false

/-- How often the direction changes in a run. -/
def turns (h : SysInputHandler) : List Handling → ℕ
  | [] => 0
  | handling :: rest => (h.turnsAt handling.event).toNat +
      turns (h.handleEvent handling.state handling.event handling.clipboard).1 rest

/-- What is forwarded of the motion is one movement at most. -/
theorem length_movements_forwardDelta (eventTime : ℤ) (captureEnabled : Bool) :
    (movements (h.forwardDelta eventTime captureEnabled fun delta =>
      .mouseMove delta.1 delta.2)).length ≤ 1 := by
  unfold forwardDelta
  split_ifs
  · exact le_refl _
  · exact Nat.zero_le _

/-- An event leaves the threshold alone. -/
theorem handleEvent_thresholdNs (state : AppState) (event : Event) (clipboard : ClipboardEnv) :
    (h.handleEvent state event clipboard).1.thresholdNs = h.thresholdNs := by
  obtain ⟨time, name, eventType⟩ := event
  cases eventType with
  | mouseMove x y =>
    simp only [handleEvent, handleMouseMove, processAccumulatedEvent]
    split_ifs <;> rfl
  | keyPress | keyRelease | buttonPress | buttonRelease | wheel => rfl

/-- An event that is no movement does not touch the window. -/
theorem handleEvent_mouseLastEventTime (state : AppState) {event : Event}
    (hevent : event.eventType.position = none) (clipboard : ClipboardEnv) :
    (h.handleEvent state event clipboard).1.mouseLastEventTime = h.mouseLastEventTime := by
  obtain ⟨time, name, eventType⟩ := event
  cases eventType with
  | mouseMove x y => cases hevent
  | keyPress | keyRelease | buttonPress | buttonRelease | wheel => rfl

/-- What a movement does to the window. -/
theorem step_handleEvent (state : AppState) {event : Event} {position : ℚ × ℚ}
    (hevent : event.eventType.position = some position) (clipboard : ClipboardEnv)
    (htime : h.mouseLastEventTime ≤ event.time) :
    Windows.Step h.thresholdNs h.mouseLastEventTime event.time
      (h.handleEvent state event clipboard).1.mouseLastEventTime (h.turnsAt event).toNat
      (movements (h.handleEvent state event clipboard).2).length := by
  obtain ⟨time, name, eventType⟩ := event
  cases eventType with
  | keyPress | keyRelease | buttonPress | buttonRelease | wheel => cases hevent
  | mouseMove x y =>
    simp only [handleEvent, handleMouseMove, processAccumulatedEvent, turnsAt, EventType.position]
    split_ifs with hturn hdue
    · rw [hturn]
      exact .turns (length_movements_forwardDelta _ _ _)
    · rw [Bool.eq_false_of_not_eq_true hturn]
      refine .closes ?_ (length_movements_forwardDelta _ _ _)
      exact (Int.le_ediv_iff_mul_le (by decide)).mp hdue.2
    · rw [Bool.eq_false_of_not_eq_true hturn]
      refine .stays (not_le.mp fun hpassed => hdue ⟨htime, ?_⟩)
      exact (Int.le_ediv_iff_mul_le (by decide)).mpr hpassed

/-! ## What is held back -/

/-- The movements are those that are held back, and they came in the window. -/
structure Holds (held : List (ℤ × ℚ × ℚ)) : Prop where
  sum : (held.map Prod.snd).sum = h.accumulatedDelta
  recent : ∀ x ∈ held, h.mouseLastEventTime ≤ x.1

variable {h}

/-- After a movement, what is held back is that movement and what was held back before it, or some
of this. -/
theorem Holds.handleEvent {held : List (ℤ × ℚ × ℚ)} (hheld : h.Holds held) (state : AppState)
    {event : Event} {position : ℚ × ℚ} (hevent : event.eventType.position = some position)
    (clipboard : ClipboardEnv) (htime : h.mouseLastEventTime ≤ event.time) :
    ∃ held', held' <:+ held ++ [(event.time, position - h.mouseLastPosition)] ∧
      (h.handleEvent state event clipboard).1.Holds held' := by
  obtain ⟨time, name, eventType⟩ := event
  cases eventType with
  | keyPress | keyRelease | buttonPress | buttonRelease | wheel => cases hevent
  | mouseMove x y =>
    obtain rfl := Option.some.inj hevent
    simp only [SysInputHandler.handleEvent, handleMouseMove, processAccumulatedEvent]
    split_ifs with hturn hdue
    -- it turns, and is the first to be held back again
    · refine ⟨_, List.suffix_append _ _, ?_, fun x hx => ?_⟩
      · rw [List.map_singleton, List.sum_singleton]
        rfl
      · rw [List.mem_singleton.mp hx]
    · exact ⟨[], List.nil_suffix, rfl, List.forall_mem_nil _⟩
    · refine ⟨_, List.suffix_refl _, ?_, fun x hx => ?_⟩
      · rw [List.map_append, List.sum_append, hheld.sum, List.map_singleton, List.sum_singleton]
        rfl
      · rcases List.mem_append.mp hx with hx | hx
        · exact hheld.recent x hx
        · rw [List.mem_singleton.mp hx]
          exact htime

/-! ## Runs -/

/-- The times of the movements are in order, from the last time that motion was forwarded. -/
def InOrder (start : ℤ) (handlings : List Handling) : Prop :=
  (start :: moveTimes handlings).Pairwise (· ≤ ·)

/-- After a movement the rest is in order from any time up to it. -/
theorem InOrder.rest {start next : ℤ} {handling : Handling} {position : ℚ × ℚ}
    {rest : List Handling} (h : InOrder start (handling :: rest))
    (hmove : handling.event.eventType.position = some position)
    (hnext : next ≤ handling.event.time) :
    start ≤ handling.event.time ∧ InOrder next rest := by
  rw [InOrder, moveTimes_cons hmove, List.pairwise_cons, List.pairwise_cons] at h
  obtain ⟨hstart, hfirst, hrest⟩ := h
  exact ⟨hstart _ List.mem_cons_self,
    List.pairwise_cons.mpr ⟨fun t ht => hnext.trans (hfirst t ht), hrest⟩⟩

/-- An event that moves nothing leaves the order as it is. -/
theorem InOrder.rest_other {start : ℤ} {handling : Handling} {rest : List Handling}
    (h : InOrder start (handling :: rest)) (hmove : handling.event.eventType.position = none) :
    InOrder start rest := by
  rwa [InOrder, moveTimes_cons_other hmove] at h

/-- The motions of a run are spaced. -/
theorem spaced_handleEvents {handlings : List Handling} (hthreshold : 0 < h.thresholdNs)
    (horder : InOrder h.mouseLastEventTime handlings) :
    Spaced h.thresholdNs h.mouseLastEventTime (h.handleEvents handlings).1.mouseLastEventTime
      (moveTimes handlings) (h.turns handlings)
      (movements (h.handleEvents handlings).2).length := by
  induction handlings generalizing h with
  | nil => exact Windows.spaced_nil _ _
  | cons handling rest ih =>
    have hkept := h.handleEvent_thresholdNs handling.state handling.event handling.clipboard
    have hlater := @ih (h.handleEvent handling.state handling.event handling.clipboard).1
    rw [hkept] at hlater
    rw [handleEvents, turns, movements_append, List.length_append]
    cases hmove : handling.event.eventType.position with
    | some position =>
      have htime := (horder.rest hmove (le_refl _)).1
      have hstep := h.step_handleEvent handling.state hmove handling.clipboard htime
      have hrest := (horder.rest hmove (hstep.bounds hthreshold htime).2.1).2
      rw [moveTimes_cons hmove]
      exact (hlater hthreshold hrest).cons hthreshold htime hstep
    | none =>
      have hsame := h.handleEvent_mouseLastEventTime handling.state hmove handling.clipboard
      rw [hsame] at hlater
      rw [moveTimes_cons_other hmove, h.movements_handleEvent _ hmove, turnsAt, hmove]
      simpa using hlater hthreshold (horder.rest_other hmove)

/-- What is held back after a run is the motion of its last movements. -/
theorem Holds.handleEvents {handlings : List Handling} (hthreshold : 0 < h.thresholdNs)
    (horder : InOrder h.mouseLastEventTime handlings) {held : List (ℤ × ℚ × ℚ)}
    (hheld : h.Holds held) :
    ∃ held', held' <:+ held ++ motion h.mouseLastPosition handlings ∧
      (h.handleEvents handlings).1.Holds held' := by
  induction handlings generalizing h held with
  | nil => exact ⟨held, by simp [motion], hheld⟩
  | cons handling rest ih =>
    have hkept := h.handleEvent_thresholdNs handling.state handling.event handling.clipboard
    have hposition := h.handleEvent_mouseLastPosition handling.state handling.event
      handling.clipboard
    rw [SysInputHandler.handleEvents, motion]
    cases hmove : handling.event.eventType.position with
    | some position =>
      have htime := (horder.rest hmove (le_refl _)).1
      have hstep := h.step_handleEvent handling.state hmove handling.clipboard htime
      have hrest := (horder.rest hmove (hstep.bounds hthreshold htime).2.1).2
      obtain ⟨next, hnext, hholds⟩ :=
        hheld.handleEvent handling.state hmove handling.clipboard htime
      obtain ⟨held', hsuffix, hholds'⟩ := ih (by rw [hkept]; exact hthreshold) hrest hholds
      rw [hmove, Option.getD_some] at hposition
      rw [hposition] at hsuffix
      refine ⟨held', hsuffix.trans ?_, hholds'⟩
      obtain ⟨dropped, hdropped⟩ := hnext
      refine ⟨dropped, ?_⟩
      rw [← List.append_assoc, hdropped, List.append_assoc, List.singleton_append]
    | none =>
      have hsame := h.handleEvent_mouseLastEventTime handling.state hmove handling.clipboard
      have hholds : (h.handleEvent handling.state handling.event handling.clipboard).1.Holds held :=
        ⟨by rw [h.handleEvent_accumulatedDelta _ hmove, hheld.sum],
          fun x hx => hsame ▸ hheld.recent x hx⟩
      rw [hmove, Option.getD_none] at hposition
      have hlater := ih (by rw [hkept]; exact hthreshold)
        (by rw [hsame]; exact horder.rest_other hmove) hholds
      rwa [hposition] at hlater

/-- In every run of a new handler, with capture switched on and off at any points, in which the
times of the movements are in order: apart from one for each change of direction, motion is
forwarded no more than once in 50 ms, and what is held back at the end are the last movements, each
of them less than 50 ms before the last one. -/
theorem moves_debounced (state : AppState) (now : ℤ) {handlings : List Handling}
    (horder : InOrder now handlings) :
    50000000 * ((movements ((new state now).handleEvents handlings).2).length : ℤ) ≤
      50000000 * (new state now).turns handlings + ((moveTimes handlings).getLastD now - now) ∧
    ∃ held, held <:+ motion (0, 0) handlings ∧
      (held.map Prod.snd).sum = ((new state now).handleEvents handlings).1.accumulatedDelta ∧
      ∀ x ∈ held, ∀ t ∈ (moveTimes handlings).getLast?, t - x.1 < 50000000 := by
  have hwidth : (new state now).thresholdNs = 50000000 := by
    show ((50 : ℕ) : ℤ) * 1000000 = 50000000
    norm_num
  have hthreshold : 0 < (new state now).thresholdNs := by
    rw [hwidth]
    omega
  have hspaced := spaced_handleEvents hthreshold horder
  rw [hwidth] at hspaced
  have hstart : (new state now).mouseLastEventTime = now := rfl
  refine ⟨?_, ?_⟩
  · have hrate := hspaced.rate
    have hstop : ((new state now).handleEvents handlings).1.mouseLastEventTime ≤
        (moveTimes handlings).getLastD now := by
      cases hlast : (moveTimes handlings).getLast? with
      | none =>
        rw [List.getLast?_eq_none_iff] at hlast
        rw [hspaced.still hlast, hlast]
        exact le_refl now
      | some t =>
        rw [List.getLastD_eq_getLast?, hlast]
        exact (hspaced.recent t hlast).1
    rw [hstart] at hrate
    omega
  · have hnothing : (new state now).Holds [] := ⟨rfl, List.forall_mem_nil _⟩
    obtain ⟨held, hsuffix, hholds⟩ := hnothing.handleEvents hthreshold horder
    refine ⟨held, hsuffix, hholds.sum, fun x hx t ht => ?_⟩
    have hrecent := hspaced.recent t ht
    have hx := hholds.recent x hx
    omega

/-- Three movements in 70 ms, the last one after the first two were forwarded. -/
def slowMoves : List Handling :=
  [moved true 20000000 1 0, moved true 60000000 3 0, moved true 70000000 4 0]

/-- They are forwarded once at most, as the mouse does not turn and twice would take 100 ms. -/
theorem moves_debounced_sample :
    (movements ((new AppState.initial 0).handleEvents slowMoves).2).length ≤ 1 ∧
    ∃ held, held <:+ motion (0, 0) slowMoves ∧
      (held.map Prod.snd).sum =
        ((new AppState.initial 0).handleEvents slowMoves).1.accumulatedDelta ∧
      ∀ x ∈ held, 70000000 - x.1 < 50000000 := by
  have horder : InOrder 0 slowMoves := by
    show List.Pairwise (· ≤ ·) [(0 : ℤ), 20000000, 60000000, 70000000]
    decide
  obtain ⟨hrate, held, hsuffix, hsum, hrecent⟩ := moves_debounced AppState.initial 0 horder
  have hturns : (new AppState.initial 0).turns slowMoves = 0 := by decide +kernel
  have hlast : (moveTimes slowMoves).getLast? = some 70000000 := rfl
  refine ⟨?_, held, hsuffix, hsum, fun x hx => hrecent x hx _ hlast⟩
  rw [hturns, List.getLastD_eq_getLast?, hlast, Option.getD_some] at hrate
  omega

end SysInputHandler

end ToothPaste
