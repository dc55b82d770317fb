import ToothPaste.Ble.Stream

/-!
# Clipboard text

The branch of `run` for a clipboard event trims the text and then drops every character that is
neither ASCII graphic nor a space. The two do not commute: a character that is dropped leaves the
space next to it where it was.

* `clipboard_typed_iff`: what is typed of a text is trimmed, and has all the properties of a text
  that is ready to be typed, exactly when every space of the trimmed text has an ASCII graphic
  character somewhere on either side.
* `accent_leaves_space`: a text whose first word is dropped is typed with a leading space.
-/

namespace ToothPaste

/-- The characters that are typed: ASCII graphic characters and spaces. -/
def isTypeable (c : Char) : Bool := isAsciiGraphic c || c == ' '

theorem isTypeable_iff (c : Char) :
    isTypeable c = true ↔ 0x20 ≤ c.toNat ∧ c.toNat ≤ 0x7E := by
  have hspace : c = ' ' ↔ c.toNat = 0x20 :=
    ⟨fun h => h ▸ rfl, fun h => Char.toNat_inj.mp h⟩
  simp only [isTypeable, isAsciiGraphic, Bool.or_eq_true, Bool.and_eq_true, decide_eq_true_eq,
    beq_iff_eq, hspace]
  omega

theorem sanitizeClipboard_toList (text : String) :
    (sanitizeClipboard text).toList = (trim text).filter isTypeable := by
  rw [sanitizeClipboard, String.toList_ofList]
  rfl

/-- The only whitespace that is typed is the space. -/
theorem eq_space_of_isTypeable {c : Char} (htype : isTypeable c = true)
    (hwhite : isWhitespace c = true) : c = ' ' := by
  refine Char.toNat_inj.mp (show c.toNat = 0x20 from ?_)
  rw [isTypeable_iff] at htype
  simp only [isWhitespace, Bool.or_eq_true, Bool.and_eq_true, decide_eq_true_eq,
    beq_iff_eq] at hwhite
  omega

theorem isWhitespace_of_graphic {c : Char} (h : isAsciiGraphic c = true) :
    isWhitespace c = false := by
  cases hwhite : isWhitespace c with
  | false => rfl
  | true =>
    obtain rfl := eq_space_of_isTypeable (by rw [isTypeable, h, Bool.true_or]) hwhite
    exact absurd h (by decide)

/-! ## Trimming -/

/-- The text starts with no space and ends with none. -/
def EdgeFree (cs : List Char) : Prop := cs.head? ≠ some ' ' ∧ cs.getLast? ≠ some ' '

theorem sublist_trim (text : String) : (trim text).Sublist text.toList := by
  rw [trim, ← List.reverse_sublist, List.reverse_reverse]
  exact (List.dropWhile_sublist _).trans (List.dropWhile_sublist _).reverse

/-- What is dropped at the start is whitespace. -/
theorem mem_dropWhile {cs : List Char} {c : Char} (hmem : c ∈ cs) (hc : isWhitespace c = false) :
    c ∈ cs.dropWhile isWhitespace := by
  rw [← List.takeWhile_append_dropWhile (p := isWhitespace) (l := cs), List.mem_append] at hmem
  refine hmem.resolve_left fun hdropped => ?_
  have hwhite := List.all_eq_true.mp List.all_takeWhile c hdropped
  rw [hc] at hwhite
  cases hwhite

/-- Trimming keeps all that is no whitespace. -/
theorem mem_trim {text : String} {c : Char} (hmem : c ∈ text.toList)
    (hc : isWhitespace c = false) : c ∈ trim text :=
  List.mem_reverse.mpr (mem_dropWhile (List.mem_reverse.mpr (mem_dropWhile hmem hc)) hc)

/-- Nothing is dropped where there is no whitespace. -/
theorem dropWhile_eq_self {cs : List Char}
    (h : ∀ c, cs.head? = some c → isWhitespace c = false) : cs.dropWhile isWhitespace = cs := by
  cases cs with
  | nil => rfl
  | cons c cs => rw [List.dropWhile_cons, h c rfl, if_neg Bool.false_ne_true]

/-- Text of typeable characters that has no space at its edges is trimmed. -/
theorem trim_eq_self {cs : List Char} (htype : ∀ c ∈ cs, isTypeable c = true)
    (hedge : EdgeFree cs) : trim (String.ofList cs) = cs := by
  -- the same is used at the start and, in reverse, at the end
  have hfree : ∀ ds : List Char, (∀ c ∈ ds, isTypeable c = true) → ds.head? ≠ some ' ' →
      ds.dropWhile isWhitespace = ds := by
    intro ds hds hhead
    refine dropWhile_eq_self fun c hc => ?_
    cases hwhite : isWhitespace c with
    | false => rfl
    | true =>
      obtain rfl := eq_space_of_isTypeable (hds c (List.mem_of_mem_head? hc)) hwhite
      exact absurd hc hhead
  rw [trim, String.toList_ofList, hfree cs htype hedge.1, hfree cs.reverse ?_ ?_,
    List.reverse_reverse]
  · exact fun c hc => htype c (List.mem_reverse.mp hc)
  · rw [List.head?_reverse]
    exact hedge.2

/-! ## Filtering -/

/-- Every space has an ASCII graphic character somewhere before it and somewhere after it. -/
def SpacesInside (cs : List Char) : Prop :=
  ∀ before after, cs = before ++ ' ' :: after →
    (∃ c ∈ before, isAsciiGraphic c = true) ∧ ∃ c ∈ after, isAsciiGraphic c = true

/-- What is typed starts with a space exactly when some space has no graphic character before
it. -/
theorem head?_filter_iff (cs : List Char) :
    (cs.filter isTypeable).head? = some ' ' ↔
      ∃ before after, cs = before ++ ' ' :: after ∧ ∀ c ∈ before, isAsciiGraphic c = false := by
  constructor
  · intro h
    obtain ⟨rest, hrest⟩ := List.head?_eq_some_iff.mp h
    obtain ⟨before, after, rfl, hbefore, -, -⟩ := List.filter_eq_cons_iff.mp hrest
    refine ⟨before, after, rfl, fun c hc => ?_⟩
    have hnot := hbefore c hc
    rw [isTypeable, Bool.or_eq_true, not_or] at hnot
    exact Bool.eq_false_of_not_eq_true hnot.1
  · rintro ⟨before, after, rfl, hbefore⟩
    rw [List.filter_append, List.filter_cons_of_pos (by decide)]
    -- what is kept of the part before are spaces
    cases hkept : before.filter isTypeable with
    | nil => rfl
    | cons c kept =>
      have hc : c ∈ before.filter isTypeable := by rw [hkept]; exact List.mem_cons_self
      obtain ⟨hmem, htype⟩ := List.mem_filter.mp hc
      rw [isTypeable, hbefore c hmem, Bool.false_or, beq_iff_eq] at htype
      rw [htype]
      rfl

/-- The same at the end. -/
theorem getLast?_filter_iff (cs : List Char) :
    (cs.filter isTypeable).getLast? = some ' ' ↔
      ∃ before after, cs = before ++ ' ' :: after ∧ ∀ c ∈ after, isAsciiGraphic c = false := by
  rw [← List.head?_reverse, ← List.filter_reverse, head?_filter_iff]
  constructor
  · rintro ⟨before, after, heq, hbefore⟩
    refine ⟨after.reverse, before.reverse, ?_, fun c hc => hbefore c (List.mem_reverse.mp hc)⟩
    rw [← List.reverse_reverse cs, heq]
    simp
  · rintro ⟨before, after, rfl, hafter⟩
    exact ⟨after.reverse, before.reverse, by simp, fun c hc => hafter c (List.mem_reverse.mp hc)⟩

/-- What is typed has no space at its edges exactly when the spaces are inside. -/
theorem edgeFree_filter_iff (cs : List Char) :
    EdgeFree (cs.filter isTypeable) ↔ SpacesInside cs := by
  rw [EdgeFree, Ne, Ne, head?_filter_iff, getLast?_filter_iff]
  constructor
  · rintro ⟨hstart, hend⟩ before after rfl
    constructor
    · by_contra hnone
      push Not at hnone
      exact hstart ⟨before, after, rfl, fun c hc => Bool.eq_false_of_not_eq_true (hnone c hc)⟩
    · by_contra hnone
      push Not at hnone
      exact hend ⟨before, after, rfl, fun c hc => Bool.eq_false_of_not_eq_true (hnone c hc)⟩
  · intro hinside
    constructor
    · rintro ⟨before, after, rfl, hbefore⟩
      obtain ⟨⟨c, hc, hgraphic⟩, -⟩ := hinside before after rfl
      exact absurd hgraphic (by rw [hbefore c hc]; exact Bool.false_ne_true)
    · rintro ⟨before, after, rfl, hafter⟩
      obtain ⟨-, c, hc, hgraphic⟩ := hinside before after rfl
      exact absurd hgraphic (by rw [hafter c hc]; exact Bool.false_ne_true)

/-! ## What is typed -/

/-- The text that is typed of a clipboard text: a subsequence of printable ASCII characters with no
space at its edges, which stays as it is when it is handled again, and which is empty, with nothing
sent, exactly when the clipboard holds no ASCII graphic character. -/
structure TypedOf (text typed : String) : Prop where
  sublist : typed.toList.Sublist text.toList
  printable : ∀ c ∈ typed.toList, 0x20 ≤ c.toNat ∧ c.toNat ≤ 0x7E
  edges : EdgeFree typed.toList
  fixed : sanitizeClipboard typed = typed
  empty : typed = "" ↔ ∀ c ∈ text.toList, isAsciiGraphic c = false
  unsent : inputPayloads (.clipboard text) = [] ↔ ∀ c ∈ text.toList, isAsciiGraphic c = false

/-- Nothing is sent of an empty text, and something of any other. -/
theorem createKeyboardStream_eq_nil_iff (text : String) :
    createKeyboardStream text = [] ↔ text = "" := by
  rw [createKeyboardStream_eq, List.map_eq_nil_iff]
  constructor
  · intro h
    have hwhole := flatten_chunks 99 (le_refl text.toList.length)
    rw [List.map_eq_nil_iff.mp h] at hwhole
    exact String.toList_eq_nil_iff.mp hwhole.symm
  · rintro rfl
    rfl

/-- With no space at its edges, what is typed is empty exactly when nothing can be typed. -/
theorem sanitizeClipboard_eq_empty_iff {text : String}
    (hedge : EdgeFree (sanitizeClipboard text).toList) :
    sanitizeClipboard text = "" ↔ ∀ c ∈ text.toList, isAsciiGraphic c = false := by
  rw [← String.toList_eq_nil_iff, sanitizeClipboard_toList] at *
  constructor
  · intro hnil c hc
    by_contra hgraphic
    rw [Bool.not_eq_false] at hgraphic
    have htrim := mem_trim hc (isWhitespace_of_graphic hgraphic)
    exact List.filter_eq_nil_iff.mp hnil c htrim (by rw [isTypeable, hgraphic, Bool.true_or])
  · intro hnone
    -- all that is typed are spaces, and the first is at the edge
    cases htyped : (trim text).filter isTypeable with
    | nil => rfl
    | cons c rest =>
      have hc : c ∈ (trim text).filter isTypeable := by rw [htyped]; exact List.mem_cons_self
      obtain ⟨hmem, htype⟩ := List.mem_filter.mp hc
      rw [isTypeable, hnone c ((sublist_trim text).subset hmem), Bool.false_or,
        beq_iff_eq] at htype
      rw [htyped, htype] at hedge
      exact absurd rfl hedge.1

/-- For every clipboard text: what is typed of it is as it should be exactly when, in the trimmed
text, every space has an ASCII graphic character somewhere before it and somewhere after it. -/
theorem clipboard_typed_iff (text : String) :
    TypedOf text (sanitizeClipboard text) ↔ SpacesInside (trim text) := by
  rw [← edgeFree_filter_iff, ← sanitizeClipboard_toList]
  refine ⟨TypedOf.edges, fun hedge => ?_⟩
  have htype : ∀ c ∈ (sanitizeClipboard text).toList, isTypeable c = true := fun c hc => by
    rw [sanitizeClipboard_toList] at hc
    exact (List.mem_filter.mp hc).2
  have hempty := sanitizeClipboard_eq_empty_iff hedge
  refine ⟨?_, fun c hc => (isTypeable_iff c).mp (htype c hc), hedge, ?_, hempty, ?_⟩
  · rw [sanitizeClipboard_toList]
    exact List.filter_sublist.trans (sublist_trim text)
  · rw [← String.toList_inj, sanitizeClipboard_toList]
    have htrim := trim_eq_self htype hedge
    rw [String.ofList_toList] at htrim
    rw [htrim]
    exact List.filter_eq_self.mpr htype
  · exact (createKeyboardStream_eq_nil_iff _).trans hempty

/-- The accented word is dropped, and the space after it is typed. -/
theorem accent_leaves_space : ¬ ∀ text, TypedOf text (sanitizeClipboard text) := by
  intro hclaim
  have hedge := (hclaim (String.ofList ['é', ' ', 'a'])).edges
  rw [sanitizeClipboard_toList, trim, String.toList_ofList] at hedge
  exact hedge.1 (by decide)

end ToothPaste
