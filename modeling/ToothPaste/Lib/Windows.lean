import Mathlib.Algebra.Order.Ring.Int
import Mathlib.Tactic.Ring

/-!
# Windows

What comes in is gathered in a window that has a start. What comes in before `width` has passed
stays in the window; what comes in later closes it, and a turn closes it early. Either way at most
one thing is sent and the next window starts (`Step`).

* `Spaced.cons`: over a whole run, apart from one for each turn, no more is sent than one for each
  `width`, and the window that is open at the end is not due yet.
-/

namespace Windows

/-- What comes in at time `t`, in a window that started at `start`: the next window's start,
whether it is a turn, and how much is sent. -/
inductive Step (width start t : ℤ) : ℤ → ℕ → ℕ → Prop
  | stays (hopen : t - start < width) : Step width start t start 0 0
  | closes (hdue : width ≤ t - start) {sent : ℕ} (hsent : sent ≤ 1) : Step width start t t 0 sent
  | turns {sent : ℕ} (hsent : sent ≤ 1) : Step width start t t 1 sent

/-- What a run amounts to in which things come in at `times`, from a window that started at `start`
to one that started at `stop`. -/
structure Spaced (width start stop : ℤ) (times : List ℤ) (turned sent : ℕ) : Prop where
  ordered : start ≤ stop
  still : times = [] → stop = start
  rate : width * sent ≤ width * turned + (stop - start)
  recent : ∀ t ∈ times.getLast?, stop ≤ t ∧ t - stop < width

variable {width start next stop t : ℤ} {times : List ℤ} {turned turned' sent sent' : ℕ}

theorem spaced_nil (width start : ℤ) : Spaced width start start [] 0 0 :=
  ⟨le_refl _, fun _ => rfl, by simp, nofun⟩

/-- The next window starts between the last one and now, and it is not due. -/
theorem Step.bounds (h : Step width start t next turned sent) (hwidth : 0 < width)
    (ht : start ≤ t) : start ≤ next ∧ next ≤ t ∧ t - next < width := by
  cases h with
  | stays hopen => exact ⟨le_refl _, ht, hopen⟩
  | closes | turns => exact ⟨ht, le_refl _, by omega⟩

/-- A thing that is sent accounts for a turn or for a whole width. -/
theorem Step.rate (h : Step width start t next turned sent) (hwidth : 0 < width)
    (ht : start ≤ t) : width * sent ≤ width * turned + (next - start) := by
  have hone : ∀ sent : ℕ, sent ≤ 1 → width * sent ≤ width := fun sent hsent => by
    calc width * sent ≤ width * 1 := Int.mul_le_mul_of_nonneg_left (by omega) hwidth.le
      _ = width := mul_one width
  cases h with
  | stays => simp
  | closes hdue hsent =>
    have hsent := hone _ hsent
    simp only [Nat.cast_zero, mul_zero, zero_add]
    omega
  | turns hsent =>
    have hsent := hone _ hsent
    simp only [Nat.cast_one, mul_one]
    omega

/-- One thing more comes in first. -/
theorem Spaced.cons (hrest : Spaced width next stop times turned' sent') (hwidth : 0 < width)
    (ht : start ≤ t) (hstep : Step width start t next turned sent) :
    Spaced width start stop (t :: times) (turned + turned') (sent + sent') where
  ordered := (hstep.bounds hwidth ht).1.trans hrest.ordered
  still := nofun
  rate := by
    have hfirst := hstep.rate hwidth ht
    have hlater := hrest.rate
    push_cast
    rw [mul_add, mul_add]
    omega
  recent u hu := by
    cases times with
    | cons v rest => exact hrest.recent u (by rwa [List.getLast?_cons_cons] at hu)
    | nil =>
      obtain rfl := Option.some.inj hu
      rw [hrest.still rfl]
      exact (hstep.bounds hwidth ht).2

end Windows
