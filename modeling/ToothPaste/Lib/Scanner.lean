import Mathlib.Data.List.Basic

/-!
# Scanners

A scanner reads a text from the front, one item at a time, and stops as soon as its state has a
result. What it reads is therefore self-delimiting: a result on a text is the result on every
longer text (`scan_append`), and a text that scans without a rest has no proper prefix that does
(`decode_cut`). A file whose text was cut short while it was written is the case in point.
-/

/-- A scanner over items `β` with states `σ` and results `α`. -/
structure Scanner (β σ α : Type*) where
  /-- The state before the first item. -/
  start : σ
  /-- The state after an item, or `none` where the item is refused. -/
  step : σ → β → Option σ
  /-- The result of a final state. -/
  result : σ → Option α

namespace Scanner

variable {β σ α : Type*} (S : Scanner β σ α)

/-- Scan from a state: the result and the rest of the text. -/
def scan (s : σ) : List β → Option (α × List β)
  | [] => (S.result s).map fun a => (a, [])
  | b :: text =>
    match S.result s with
    | some a => some (a, b :: text)
    | none => (S.step s b).bind fun t => scan t text

/-- Scan a whole text, leaving no rest. -/
def decode (text : List β) : Option α :=
  match S.scan S.start text with
  | some (a, []) => some a
  | _ => none

variable {S}

/-- In a final state nothing is read. -/
theorem scan_of_result {s : σ} {a : α} (h : S.result s = some a) (text : List β) :
    S.scan s text = some (a, text) := by
  cases text <;> simp [scan, h]

/-- In a state that is not final one item is read. -/
theorem scan_cons {s t : σ} {b : β} (hresult : S.result s = none) (hstep : S.step s b = some t)
    (text : List β) : S.scan s (b :: text) = S.scan t text := by
  simp [scan, hresult, hstep]

/-- What a scanner has read does not depend on what follows. -/
theorem scan_append {s : σ} {text rest : List β} {a : α} (h : S.scan s text = some (a, rest))
    (more : List β) : S.scan s (text ++ more) = some (a, rest ++ more) := by
  induction text generalizing s with
  | nil =>
    obtain ⟨a', hresult, heq⟩ := Option.map_eq_some_iff.mp h
    obtain ⟨rfl, rfl⟩ := Prod.mk.inj heq
    exact scan_of_result hresult more
  | cons b text ih =>
    cases hresult : S.result s with
    | some a' =>
      -- the state is final: what follows is not looked at
      rw [scan_of_result hresult] at h ⊢
      obtain ⟨rfl, rfl⟩ := Prod.mk.inj (Option.some.inj h)
      rfl
    | none =>
      simp only [scan, hresult, List.cons_append] at h ⊢
      obtain ⟨t, ht, hscan⟩ := Option.bind_eq_some_iff.mp h
      rw [ht, Option.bind_some]
      exact ih hscan

theorem decode_eq_some_iff {text : List β} {a : α} :
    S.decode text = some a ↔ S.scan S.start text = some (a, []) := by
  unfold decode
  split
  next a' h => simp [h]
  next h =>
    constructor
    · intro hnone; cases hnone
    · intro hsome; exact absurd hsome (h a)

/-- No proper prefix of a text that decodes decodes. -/
theorem decode_cut {text cut : List β} {a : α} (h : S.decode text = some a)
    (hcut : cut <+: text) (hne : cut ≠ text) : S.decode cut = none := by
  rw [decode_eq_some_iff] at h
  obtain ⟨more, rfl⟩ := hcut
  by_contra hsome
  obtain ⟨a', ha'⟩ := Option.ne_none_iff_exists'.mp hsome
  -- the scan of the cut text stops before the rest, so that the whole text leaves it unread
  have hwhole := scan_append (decode_eq_some_iff.mp ha') more
  rw [h] at hwhole
  have hmore : more = [] := (Prod.mk.inj (Option.some.inj hwhole)).2.symm
  exact hne (by rw [hmore, List.append_nil])

end Scanner
