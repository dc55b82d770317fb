import Mathlib.Data.List.Basic
import Mathlib.Order.Lattice

/-!
# Tagged entries

Lists whose entries have a tag, as several writers leave them that write one after the other: the
entries of a tag stand together, and the tags are in order (`Sorted`).

* `sublist_of_isPrefix`: if of every tag the one list has the first entries of the other, then it is
  a sublist.
-/

namespace Tagged

variable {τ α : Type*}

section Entries

variable [DecidableEq τ]

/-- The entries of a tag. -/
def of (tag : τ) (entries : List (τ × α)) : List α :=
  entries.filterMap fun x => if x.1 = tag then some x.2 else none

/-- Items with a tag. -/
def tagged (tag : τ) (items : List α) : List (τ × α) := items.map (tag, ·)

variable {tag other : τ} {items : List α} {entries entries' : List (τ × α)}

@[simp]
theorem of_nil : of tag ([] : List (τ × α)) = [] := rfl

/-- The entries of a tag are those of one list and those of the next. -/
@[simp]
theorem of_append : of tag (entries ++ entries') = of tag entries ++ of tag entries' :=
  List.filterMap_append

@[simp]
theorem of_cons_self (x : α) : of tag ((tag, x) :: entries) = x :: of tag entries := by
  simp [of]

theorem of_cons_of_ne (h : other ≠ tag) (x : α) :
    of tag ((other, x) :: entries) = of tag entries := by
  simp [of, h]

/-- Items with a tag are the entries of it. -/
@[simp]
theorem of_tagged_self : of tag (tagged tag items) = items := by
  simp [of, tagged, List.filterMap_map]

/-- They are not entries of another tag. -/
theorem of_tagged_of_ne (h : other ≠ tag) : of tag (tagged other items) = [] := by
  simp [of, tagged, List.filterMap_map, h]

omit [DecidableEq τ] in
/-- Without the tags the items are left. -/
@[simp]
theorem map_snd_tagged : (tagged tag items).map Prod.snd = items := by
  simp [tagged, Function.comp_def]

omit [DecidableEq τ] in
/-- Items with a tag have this tag. -/
theorem fst_of_mem_tagged {x : τ × α} (h : x ∈ tagged tag items) : x.1 = tag := by
  obtain ⟨item, -, rfl⟩ := List.mem_map.mp h
  rfl

/-- An entry of a tag is one with this tag. -/
theorem mem_of_iff {x : α} : x ∈ of tag entries ↔ (tag, x) ∈ entries := by
  simp [of, List.mem_filterMap]

/-- A tag without entries is the tag of none. -/
theorem of_eq_nil_iff : of tag entries = [] ↔ ∀ x ∈ entries, x.1 ≠ tag := by
  simp [of, List.filterMap_eq_nil_iff]

/-- Which entries are kept may depend on the tag. -/
theorem of_filter (p : τ → Bool) :
    of tag (entries.filter fun x => p x.1) = if p tag then of tag entries else [] := by
  induction entries with
  | nil => simp
  | cons x entries ih =>
    obtain ⟨c, a⟩ := x
    by_cases hc : c = tag
    · subst hc
      cases hp : p c <;> simp_all
    · cases hp : p c <;> simp_all [of_cons_of_ne hc]

end Entries

section Sorted

variable [LinearOrder τ]

/-- The tags are in order. -/
def Sorted (entries : List (τ × α)) : Prop := (entries.map Prod.fst).Pairwise (· ≤ ·)

variable {tag : τ} {entries entries' : List (τ × α)}

@[simp]
theorem sorted_nil : Sorted ([] : List (τ × α)) := List.Pairwise.nil

/-- Entries are added under a tag that is no lower than those before. -/
theorem Sorted.append_tagged (h : Sorted entries) (hle : ∀ x ∈ entries, x.1 ≤ tag)
    (items : List α) : Sorted (entries ++ tagged tag items) := by
  rw [Sorted, List.map_append, List.pairwise_append]
  refine ⟨h, ?_, fun a ha b hb => ?_⟩
  · refine List.pairwise_of_forall_mem_list fun a ha b hb => ?_
    obtain ⟨x, hx, rfl⟩ := List.mem_map.mp ha
    obtain ⟨y, hy, rfl⟩ := List.mem_map.mp hb
    rw [fst_of_mem_tagged hx, fst_of_mem_tagged hy]
  · obtain ⟨x, hx, rfl⟩ := List.mem_map.mp ha
    obtain ⟨y, hy, rfl⟩ := List.mem_map.mp hb
    rw [fst_of_mem_tagged hy]
    exact hle x hx

/-- Entries may be left out. -/
theorem Sorted.filter (h : Sorted entries) (p : τ × α → Bool) : Sorted (entries.filter p) :=
  h.sublist (List.filter_sublist.map _)

/-- The first entry may be left out. -/
theorem Sorted.of_cons {x : τ × α} (h : Sorted (x :: entries)) : Sorted entries :=
  List.Pairwise.of_cons h

/-- The first tag is the lowest. -/
theorem Sorted.head_le {x : τ × α} (h : Sorted (x :: entries)) : ∀ y ∈ entries, x.1 ≤ y.1 :=
  fun _ hy => List.rel_of_pairwise_cons h (List.mem_map_of_mem hy)

/-- Where every tag has its first entries, in the same order of the tags, the rest is left out and
nothing else. -/
theorem sublist_of_isPrefix (h : Sorted entries) (h' : Sorted entries')
    (hstarts : ∀ tag, of tag entries <+: of tag entries') :
    (entries.map Prod.snd).Sublist (entries'.map Prod.snd) := by
  induction entries' generalizing entries with
  | nil =>
    have hnone : ∀ x ∈ entries, False := fun x hx =>
      of_eq_nil_iff.mp (List.prefix_nil.mp (hstarts x.1)) x hx rfl
    rw [List.eq_nil_iff_forall_not_mem.mpr hnone]
  | cons y rest ih =>
    obtain ⟨c, b⟩ := y
    cases entries with
    | nil => exact List.nil_sublist _
    | cons x entries =>
      obtain ⟨d, a⟩ := x
      by_cases hd : d = c
      -- the first entry is the same in both
      · subst hd
        have hhead := hstarts d
        rw [of_cons_self, of_cons_self, List.cons_prefix_cons] at hhead
        obtain ⟨rfl, hrest⟩ := hhead
        refine (ih h.of_cons h'.of_cons fun tag => ?_).cons_cons a
        by_cases htag : d = tag
        · exact htag ▸ hrest
        · simpa only [of_cons_of_ne htag] using hstarts tag
      -- the entry of the longer list is left out, as every tag of the other one is higher
      · refine (ih h h'.of_cons fun tag => ?_).cons b
        by_cases htag : c = tag
        · subst htag
          have hmem : ∃ e ∈ (c, b) :: rest, e.1 = d := by
            by_contra hnone
            have hnil := of_eq_nil_iff.mpr fun e he hed => hnone ⟨e, he, hed⟩
            have hd' := hstarts d
            rw [hnil, of_cons_self] at hd'
            cases List.prefix_nil.mp hd'
          obtain ⟨e, he, hed⟩ := hmem
          have hlt : c < d := by
            refine lt_of_le_of_ne ?_ (Ne.symm hd)
            rcases List.mem_cons.mp he with rfl | he
            · exact le_of_eq hed
            · exact hed ▸ h'.head_le e he
          have hnone : of c ((d, a) :: entries) = [] := by
            refine of_eq_nil_iff.mpr fun e' he' => ?_
            rcases List.mem_cons.mp he' with rfl | he'
            · exact hd
            · exact (hlt.trans_le (h.head_le e' he')).ne'
          rw [hnone]
          exact List.nil_prefix
        · simpa only [of_cons_of_ne htag] using hstarts tag

end Sorted

end Tagged
