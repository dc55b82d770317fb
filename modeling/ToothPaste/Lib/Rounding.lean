import Mathlib.Algebra.BigOperators.Group.List.Basic
import Mathlib.Algebra.Order.Round

/-!
# Rounding half away from zero

`roundHalfAway x` is the integer closest to `x`, and of two the one farther from zero. Each rounding
is off by at most a half. When amounts are rounded one by one and added up, the errors add up too:
the two sums are at most as many halves apart as there were amounts that are no integers.

* `abs_sum_roundHalfAway_sub_le`: the error of a sum of rounded amounts.
-/

namespace Rounding

variable {K : Type*} [Field K] [LinearOrder K] [IsStrictOrderedRing K] [FloorRing K]

/-- The closest integer, and of two the one farther from zero. -/
def roundHalfAway (x : K) : ℤ := if 0 ≤ x then round x else -round (-x)

/-- A rounding is off by at most a half. -/
theorem abs_roundHalfAway_sub_le (x : K) : |(roundHalfAway x : K) - x| ≤ 1 / 2 := by
  unfold roundHalfAway
  split_ifs
  · rw [abs_sub_comm]
    exact abs_sub_round x
  · calc |((-round (-x) : ℤ) : K) - x| = |-x - (round (-x) : K)| := by
          rw [Int.cast_neg, neg_sub_left, add_comm, ← neg_sub_left]
      _ ≤ 1 / 2 := abs_sub_round (-x)

/-- An integer is rounded to itself. -/
theorem roundHalfAway_of_fract {x : K} (h : Int.fract x = 0) : (roundHalfAway x : K) = x := by
  obtain ⟨n, rfl⟩ := Int.fract_eq_zero_iff.mp h
  unfold roundHalfAway
  split_ifs
  · rw [round_intCast]
  · rw [← Int.cast_neg, round_intCast, neg_neg]

/-- The sum of the rounded amounts is off by at most a half for each amount that is no integer. -/
theorem abs_sum_roundHalfAway_sub_le (xs : List K) :
    |((xs.map roundHalfAway).sum : K) - xs.sum| ≤
      (xs.countP fun x => Int.fract x ≠ 0 : ℕ) * (1 / 2) := by
  induction xs with
  | nil => simp
  | cons x xs ih =>
    have hsplit : (((x :: xs).map roundHalfAway).sum : K) - (x :: xs).sum =
        ((roundHalfAway x : K) - x) + (((xs.map roundHalfAway).sum : K) - xs.sum) := by
      rw [List.map_cons, List.sum_cons, List.sum_cons, Int.cast_add, add_sub_add_comm]
    rw [hsplit]
    by_cases hx : Int.fract x = 0
    -- an integer adds no error
    · rw [roundHalfAway_of_fract hx, sub_self, zero_add, List.countP_cons_of_neg (by simp [hx])]
      exact ih
    · rw [List.countP_cons_of_pos (by simp [hx]), Nat.cast_succ, add_mul, one_mul, add_comm]
      exact (abs_add_le _ _).trans (add_le_add ih (abs_roundHalfAway_sub_le x))

end Rounding
