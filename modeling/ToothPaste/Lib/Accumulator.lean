import Mathlib.Algebra.BigOperators.Group.List.Basic
import Mathlib.Algebra.Order.Group.Abs

/-!
# Accumulators

An accumulator keeps the sum of what came in and has not gone out yet. It takes in one amount at a
time and now and then gives out all it keeps. `Conserves before ins outs after` says that the
amounts given out and the one kept at the end account for the one kept at the start and those taken
in, both as signed amounts and as absolute ones. The second needs that no two amounts of opposite
signs are added up: an amount against the sign of what is kept has it given out first.
-/

namespace Accumulator

variable {G : Type*} [AddCommGroup G] [LinearOrder G]

/-- Two amounts of opposite signs. -/
def Opposite (a b : G) : Prop := (0 < a ∧ b < 0) ∨ (a < 0 ∧ 0 < b)

/-- From `before` to `after`, with `ins` taken in and `outs` given out. -/
structure Conserves (before : G) (ins outs : List G) (after : G) : Prop where
  signed : outs.sum + after = before + ins.sum
  absolute : (outs.map abs).sum + |after| = |before| + (ins.map abs).sum

namespace Conserves

variable {a b c x : G} {ins ins' outs outs' : List G}

/-- Nothing happens. -/
theorem refl (a : G) : Conserves a [] [] a :=
  ⟨by rw [List.sum_nil, zero_add, add_zero], by simp⟩

/-- One part after the other. -/
theorem trans (h : Conserves a ins outs b) (h' : Conserves b ins' outs' c) :
    Conserves a (ins ++ ins') (outs ++ outs') c where
  signed := by
    calc (outs ++ outs').sum + c = outs.sum + (outs'.sum + c) := by
          rw [List.sum_append, add_assoc]
      _ = outs.sum + b + ins'.sum := by rw [h'.signed, add_assoc]
      _ = a + (ins ++ ins').sum := by rw [h.signed, List.sum_append, add_assoc]
  absolute := by
    calc ((outs ++ outs').map abs).sum + |c|
        = (outs.map abs).sum + ((outs'.map abs).sum + |c|) := by
          rw [List.map_append, List.sum_append, add_assoc]
      _ = (outs.map abs).sum + |b| + (ins'.map abs).sum := by rw [h'.absolute, add_assoc]
      _ = |a| + ((ins ++ ins').map abs).sum := by
          rw [h.absolute, List.map_append, List.sum_append, add_assoc]

end Conserves

variable [IsOrderedAddMonoid G]

/-- Amounts that are not of opposite signs add up in absolute value too. -/
theorem abs_add_of_not_opposite {a b : G} (h : ¬ Opposite a b) : |a + b| = |a| + |b| := by
  rw [Opposite, not_or, not_and, not_and, not_lt, not_lt] at h
  obtain ⟨hpos, hneg⟩ := h
  rw [abs_add_eq_add_abs_iff]
  rcases lt_trichotomy a 0 with ha | rfl | ha
  · exact .inr ⟨ha.le, hneg ha⟩
  · exact (le_total 0 b).imp (⟨le_rfl, ·⟩) (⟨le_rfl, ·⟩)
  · exact .inl ⟨ha.le, hpos ha⟩

namespace Conserves

variable {a x : G}

/-- What is kept is given out. -/
theorem flush (a : G) : Conserves a [] [a] 0 :=
  ⟨by rw [List.sum_singleton, List.sum_nil], by simp⟩

/-- An amount is taken in that is not against the sign of what is kept. -/
theorem add (h : ¬ Opposite x a) : Conserves a [x] [] (a + x) where
  signed := by rw [List.sum_nil, zero_add, List.sum_singleton]
  absolute := by
    rw [add_comm a x, abs_add_of_not_opposite h]
    simp [add_comm]

/-- An amount is taken in where nothing is kept. -/
theorem start (x : G) : Conserves 0 [x] [] x := by
  have h : ¬ Opposite x 0 := by simp [Opposite]
  simpa only [zero_add] using add h

end Conserves

end Accumulator
