import Mathlib.Data.List.Basic

/-!
# Slices of a text by bytes

A text can be cut after `n` bytes where `n` is a character boundary of it, and nowhere else
(`sliceTo`). Of a text that is longer than `n` bytes the slice is the longest prefix within `n`
bytes (`longestPrefix_of_sliceTo`).
-/

namespace Utf8Slice

/-- The byte index is the end of the text or starts a character. -/
def IsBoundary (s : String) (n : ℕ) : Prop := String.Pos.Raw.IsValid s ⟨n⟩

instance (s : String) (n : ℕ) : Decidable (IsBoundary s n) :=
  inferInstanceAs (Decidable (String.Pos.Raw.IsValid s ⟨n⟩))

/-- The text before a byte index; `none` where the index is inside a character or after the end. -/
def sliceTo (s : String) (n : ℕ) : Option String :=
  if h : IsBoundary s n then some (s.sliceTo (s.pos ⟨n⟩ h)).copy else none

/-- `t` is the longest prefix of `s` within `max` bytes. -/
structure LongestPrefix (max : ℕ) (s t : String) : Prop where
  isPrefix : ∃ rest, s = t ++ rest
  within : t.utf8ByteSize ≤ max
  longest : ∀ u, (∃ rest, s = u ++ rest) → u.utf8ByteSize ≤ max → u.utf8ByteSize ≤ t.utf8ByteSize

variable {s t : String} {n max : ℕ}

theorem isSome_sliceTo : (sliceTo s n).isSome ↔ IsBoundary s n := by
  unfold sliceTo
  split_ifs with h <;> simp [h]

/-- The slice is the prefix of just as many bytes. -/
theorem eq_append_of_sliceTo (h : sliceTo s n = some t) :
    (∃ rest, s = t ++ rest) ∧ t.utf8ByteSize = n := by
  unfold sliceTo at h
  split_ifs at h with hvalid
  obtain rfl := Option.some.inj h
  have hsplits := (s.pos ⟨n⟩ hvalid).splits
  have hoffset := congrArg String.Pos.Raw.byteIdx hsplits.offset_eq_rawEndPos
  exact ⟨⟨_, hsplits.eq_append⟩, hoffset.symm⟩

/-- A text within the limit is its own longest prefix. -/
theorem longestPrefix_self (h : s.utf8ByteSize ≤ max) : LongestPrefix max s s where
  isPrefix := ⟨"", by simp⟩
  within := h
  longest := by
    rintro u ⟨rest, rfl⟩ -
    simp

/-- A slice is the longest prefix within its bytes. -/
theorem longestPrefix_of_sliceTo (h : sliceTo s max = some t) : LongestPrefix max s t := by
  obtain ⟨happend, hsize⟩ := eq_append_of_sliceTo h
  exact ⟨happend, Nat.le_of_eq hsize, fun u _ hu => hsize.symm ▸ hu⟩

end Utf8Slice
