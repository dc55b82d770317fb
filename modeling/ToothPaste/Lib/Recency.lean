import Mathlib.Data.List.Basic

/-!
# Recent writes

A log of writes, each to one key, and a store that may have lost some of them: it shows of each key
the last write to it, apart from some at the end that it has lost (`Shows`). Which writes it may
lose is a predicate on them.

* `Shows.append_lost`, `Shows.append_other`: what is shown may stay as it is when a write is lost,
  or is to another key.
* `shows_append_self`: or it is the new write.
-/

namespace Recency

variable {κ ω : Type*} [DecidableEq κ] {keyOf : ω → κ} {lost lost' : ω → Prop} {log : List ω}
  {key : κ} {shown : Option ω} {w : ω}

/-- The writes to a key. -/
def writesTo (keyOf : ω → κ) (key : κ) (log : List ω) : List ω :=
  log.filter fun w => keyOf w = key

/-- The writes to a key in two logs, one after the other. -/
@[simp]
theorem writesTo_append (log' : List ω) :
    writesTo keyOf key (log ++ log') = writesTo keyOf key log ++ writesTo keyOf key log' :=
  List.filter_append ..

/-- A write to the key. -/
theorem writesTo_self (h : keyOf w = key) : writesTo keyOf key [w] = [w] := by simp [writesTo, h]

/-- A write to another key. -/
theorem writesTo_other (h : keyOf w ≠ key) : writesTo keyOf key [w] = [] := by simp [writesTo, h]

/-- What is shown of a key: the last write to it that was not lost, where those that were lost came
after it. -/
def Shows (keyOf : ω → κ) (lost : ω → Prop) (log : List ω) (key : κ) (shown : Option ω) : Prop :=
  ∃ before after, writesTo keyOf key log = before ++ after ∧ (∀ w ∈ after, lost w) ∧
    shown = before.getLast?

/-- Without a write nothing is shown. -/
theorem shows_nil : Shows keyOf lost [] key none := ⟨[], [], rfl, nofun, rfl⟩

/-- A write that is lost leaves what is shown. -/
theorem Shows.append_lost (h : Shows keyOf lost log key shown) (hlost : lost w) :
    Shows keyOf lost (log ++ [w]) key shown := by
  obtain ⟨before, after, hsplit, hafter, hshown⟩ := h
  refine ⟨before, after ++ writesTo keyOf key [w], ?_, fun v hv => ?_, hshown⟩
  · rw [writesTo_append, hsplit, List.append_assoc]
  · rcases List.mem_append.mp hv with hv | hv
    · exact hafter v hv
    · obtain rfl := List.mem_singleton.mp (List.mem_of_mem_filter hv)
      exact hlost

/-- So does a write to another key. -/
theorem Shows.append_other (h : Shows keyOf lost log key shown) (hkey : keyOf w ≠ key) :
    Shows keyOf lost (log ++ [w]) key shown := by
  obtain ⟨before, after, hsplit, hafter, hshown⟩ := h
  refine ⟨before, after, ?_, hafter, hshown⟩
  rw [writesTo_append, hsplit, writesTo_other hkey, List.append_nil]

/-- The new write is shown, whatever was shown before. -/
theorem shows_append_self (hkey : keyOf w = key) :
    Shows keyOf lost (log ++ [w]) key (some w) := by
  refine ⟨writesTo keyOf key log ++ [w], [], ?_, nofun, ?_⟩
  · rw [writesTo_append, writesTo_self hkey, List.append_nil]
  · rw [List.getLast?_append, List.getLast?_singleton, Option.some_or]

/-- More writes may count as lost. -/
theorem Shows.mono (h : Shows keyOf lost log key shown) (hlost : ∀ w ∈ log, lost w → lost' w) :
    Shows keyOf lost' log key shown := by
  obtain ⟨before, after, hsplit, hafter, hshown⟩ := h
  refine ⟨before, after, hsplit, fun w hw => hlost w ?_ (hafter w hw), hshown⟩
  have hmem : w ∈ writesTo keyOf key log := by
    rw [hsplit]
    exact List.mem_append_right _ hw
  exact List.mem_of_mem_filter hmem

end Recency
