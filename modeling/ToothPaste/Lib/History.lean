import Mathlib.Data.List.Induction

/-!
# Laws about every entry of a history

A history is a list of what has happened, oldest first. `Each P history` says of every entry that
`P` holds of it and of what came before it; `each_concat` is the rule by which a system that keeps
its history proves such a law step by step.
-/

namespace History

variable {α : Type*} {P Q : List α → α → Prop}

/-- `P` holds of every entry and of the entries before it. -/
def Each (P : List α → α → Prop) (history : List α) : Prop :=
  ∀ earlier x later, history = earlier ++ x :: later → P earlier x

@[simp]
theorem each_nil : Each P [] := by
  intro earlier x later h
  simp at h

/-- The law holds after one more entry exactly when it held before and holds of that entry. -/
theorem each_concat (history : List α) (x : α) :
    Each P (history ++ [x]) ↔ Each P history ∧ P history x := by
  constructor
  · intro h
    refine ⟨fun earlier y later heq => h earlier y (later ++ [x]) ?_, h history x [] rfl⟩
    rw [heq, List.append_assoc, List.cons_append]
  · rintro ⟨hall, hlast⟩ earlier y later heq
    rcases List.eq_nil_or_concat later with rfl | ⟨later, last, rfl⟩
    · obtain ⟨rfl, hxy⟩ := List.append_inj' heq rfl
      exact List.singleton_inj.mp hxy ▸ hlast
    -- the entry is one of the earlier ones
    · have hsplit : history ++ [x] = (earlier ++ y :: later) ++ [last] := by
        simpa using heq
      exact hall earlier y later (List.append_inj' hsplit rfl).1

/-- Two laws that agree on every entry of a history hold of it together. -/
theorem Each.iff_congr {history : List α} (h : Each (fun earlier x => P earlier x ↔ Q earlier x)
    history) : Each P history ↔ Each Q history := by
  constructor
  · intro hP earlier x later heq
    exact (h earlier x later heq).mp (hP earlier x later heq)
  · intro hQ earlier x later heq
    exact (h earlier x later heq).mpr (hQ earlier x later heq)

/-- A law about what a function reads off the entries is one about the history of what it reads. -/
theorem each_map {β : Type*} (f : β → α) (history : List β) :
    Each P (history.map f) ↔ Each (fun earlier x => P (earlier.map f) (f x)) history := by
  induction history using List.reverseRecOn with
  | nil => exact iff_of_true each_nil each_nil
  | append_singleton history x ih =>
    rw [List.map_append, List.map_singleton, each_concat, each_concat, ih]

/-- The law, entry by entry. -/
theorem each_iff_forall_fin (history : List α) :
    Each P history ↔ ∀ i : Fin history.length, P (history.take i) history[i] := by
  constructor
  · intro h i
    refine h _ _ (history.drop (i + 1)) ?_
    rw [Fin.getElem_fin, ← List.drop_eq_getElem_cons, List.take_append_drop]
  · rintro h earlier x later rfl
    simpa using h ⟨earlier.length, by simp⟩

instance [∀ earlier x, Decidable (P earlier x)] (history : List α) :
    Decidable (Each P history) :=
  decidable_of_iff _ (each_iff_forall_fin history).symm

theorem Each.mono {history : List α} (hP : Each P history)
    (h : ∀ earlier x, P earlier x → Q earlier x) : Each Q history := by
  intro earlier x later heq
  exact h earlier x (hP earlier x later heq)

end History
