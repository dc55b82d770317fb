import Mathlib.Data.List.Induction

/-!
# Levels of on-off events

Something that one event switches on and another switches off: `level on off events` says whether
it is on after the events, oldest first. An event other than the two leaves it as it is, so that the
last of the two decides (`level_eq_true_iff`).
-/

namespace Level

variable {α : Type*} [DecidableEq α] (on off : α)

/-- The level after one more event. -/
def next (level : Bool) (event : α) : Bool :=
  if event = on then true else if event = off then false else level

/-- The level after the events. -/
def level (events : List α) : Bool := events.foldl (next on off) false

@[simp]
theorem level_nil : level on off [] = false := rfl

@[simp]
theorem level_concat (events : List α) (event : α) :
    level on off (events ++ [event]) = next on off (level on off events) event :=
  List.foldl_append

/-- The last event is the one that switches on exactly when the level is on after it, unless the
event is neither of the two and the level was on. -/
theorem eq_on_iff_level_concat {on off : α} (hne : on ≠ off) (events : List α) (event : α) :
    (event = on ↔ level on off (events ++ [event]) = true) ↔
      (level on off events = true → event = on ∨ event = off) := by
  rw [level_concat, next]
  by_cases hon : event = on
  · simp [hon]
  by_cases hoff : event = off
  · simp [hoff, hne.symm]
  · simp [hon, hoff]

/-- The events that switch it. -/
def switches (events : List α) : List α := events.filter fun event => event = on ∨ event = off

@[simp]
theorem switches_append (events events' : List α) :
    switches on off (events ++ events') = switches on off events ++ switches on off events' :=
  List.filter_append ..

/-- It is on exactly when the last event that switched it is the one that switches it on. -/
theorem level_eq_true_iff {on off : α} (hne : on ≠ off) (events : List α) :
    level on off events = true ↔ (switches on off events).getLast? = some on := by
  induction events using List.reverseRecOn with
  | nil => simp [switches]
  | append_singleton events event ih =>
    rw [level_concat, next, switches_append]
    by_cases hon : event = on
    · simp [hon, switches]
    by_cases hoff : event = off
    · simp [hoff, hne.symm, switches]
    · simpa [hon, hoff, switches] using ih

end Level
