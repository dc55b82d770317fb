import Mathlib.Data.List.Basic

/-!
# Writing a file front to back

A file that is overwritten in place is first truncated and then grows by the new text, front to
back. A failure or a crash leaves one of the contents it passes through (`Passes`): the old
content, or a prefix of the new text. `Passes.old_or_new_or_cut` separates the two complete
contents from the texts cut short.
-/

namespace PrefixWrite

variable {α : Type*}

/-- The contents a file passes through while `text` is written over `old`. -/
inductive Passes (old : Option (List α)) (text : List α) : Option (List α) → Prop
  | untouched : Passes old text old
  | written (n : ℕ) : Passes old text (some (text.take n))

/-- `content` is a text cut short. -/
def CutShort (text : List α) (content : Option (List α)) : Prop :=
  ∃ cut, content = some cut ∧ cut <+: text ∧ cut ≠ text

/-- The complete text is passed through last. -/
theorem Passes.complete (old : Option (List α)) (text : List α) : Passes old text (some text) := by
  have h : Passes old text (some (text.take text.length)) := .written _
  rwa [List.take_length] at h

/-- A content on the way is the old one, the new one, or the new one cut short. -/
theorem Passes.old_or_new_or_cut {old content : Option (List α)} {text : List α}
    (h : Passes old text content) :
    content = old ∨ content = some text ∨ CutShort text content := by
  cases h with
  | untouched => exact .inl rfl
  | written n =>
    by_cases hfull : text.take n = text
    · exact .inr (.inl (by rw [hfull]))
    · exact .inr (.inr ⟨text.take n, rfl, List.take_prefix n text, hfull⟩)

end PrefixWrite
