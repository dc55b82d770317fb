import Mathlib.Data.List.Basic

/-!
# Watch channels

A value that senders overwrite and receivers look at. Every send raises the version. A receiver
knows the version it has last marked as seen; it is changed as long as that is not the current
one, however many sends there were since.
-/

/-- The value and its version. -/
structure Watch (α : Type*) where
  value : α
  version : ℕ

namespace Watch

variable {α : Type*}

/-- The value is overwritten. -/
def send (w : Watch α) (value : α) : Watch α := ⟨value, w.version + 1⟩

/-- A receiver has a change that it has not marked as seen. -/
def HasChanged (w : Watch α) (seen : ℕ) : Prop := seen ≠ w.version

instance (w : Watch α) (seen : ℕ) : Decidable (w.HasChanged seen) :=
  inferInstanceAs (Decidable (_ ≠ _))

end Watch
