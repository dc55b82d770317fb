import Mathlib.Data.Vector.Basic
import ToothPaste.Core

/-!
# Key combos

`parse_key_combo` splits its argument at every `+`: the last part names the key, and the others name
modifiers, whose codes go to the first five bytes of the report.

* `parseKeyCombo_spec`: what is accepted, and the report of it. A sixth modifier finds no byte left.
* `sixth_modifier_dropped`: a combo of six modifiers whose report lacks the last one.
* `printable_pressed_iff`: behind any modifiers, every printable character can be pressed except the
  one that separates the parts.
* `plus_unpressable`: `+` itself.
-/

namespace ToothPaste

namespace Mcp

/-! ## Keys -/

/-- `to_lowercase`, as far as a comparison with ASCII text can tell: beside the ASCII capitals only
the Kelvin sign becomes an ASCII letter, and no character that stays as it is here becomes one. -/
def toLowercase (text : String) : String :=
  String.ofList (text.toList.map fun c => if c = Char.ofNat 0x212A then 'k' else c.toLower)

/-- `split('+')`. -/
def splitPlus (text : String) : List String :=
  (text.toList.splitOn '+').map String.ofList

/-- The code of a modifier in a key combo. -/
def modifierCode (name : String) : Option UInt8 :=
  match toLowercase name with
  | "ctrl" | "control" => some 0x80
  | "shift" => some 0x81
  | "alt" => some 0x82
  | "meta" | "win" | "cmd" | "gui" => some 0x83
  | _ => none

/-- `key_name_to_code`. -/
def keyNameToCode (name : String) : Option UInt8 :=
  match toLowercase name with
  | "return" | "enter" => some 0xB0
  | "backspace" => some 0xB2
  | "tab" => some 0xB3
  | "escape" | "esc" => some 0xB1
  | "delete" | "del" => some 0xD4
  | "insert" => some 0xD1
  | "home" => some 0xD2
  | "end" => some 0xD5
  | "pageup" | "pgup" => some 0xD3
  | "pagedown" | "pgdn" | "pgdown" => some 0xD6
  | "up" => some 0xDA
  | "down" => some 0xD9
  | "left" => some 0xD8
  | "right" => some 0xD7
  | "f1" => some 0xC2
  | "f2" => some 0xC3
  | "f3" => some 0xC4
  | "f4" => some 0xC5
  | "f5" => some 0xC6
  | "f6" => some 0xC7
  | "f7" => some 0xC8
  | "f8" => some 0xC9
  | "f9" => some 0xCA
  | "f10" => some 0xCB
  | "f11" => some 0xCC
  | "f12" => some 0xCD
  | "space" => some 0x20
  -- a single byte is a single ASCII character
  | s =>
    if s.utf8ByteSize = 1 then
      s.toList.head?.bind fun c => if c.toNat < 128 then some (UInt8.ofNat c.toNat) else none
    else none

/-- The loop over the modifiers: each code goes to the next of the first five bytes, and a code
that finds none left is dropped. -/
def placeModifiers : List String → Vector UInt8 8 → ℕ → Option (Vector UInt8 8)
  | [], report, _ => some report
  | m :: mods, report, modIdx =>
    match modifierCode m with
    | none => none
    | some code =>
      if h : modIdx < 5 then placeModifiers mods (report.set modIdx code) (modIdx + 1)
      else placeModifiers mods report modIdx

/-- `parse_key_combo`. -/
def parseKeyCombo (keyStr : String) : Option (Vector UInt8 8) := do
  -- splitting gives one part at least, so that there is always a last one
  let parts := splitPlus keyStr
  let mods := parts.take (parts.length - 1)
  let main := parts.drop (parts.length - 1)
  let report ← placeModifiers mods (Vector.replicate 8 0) 0
  let code ← keyNameToCode (← main.head?)
  some (report.set 5 code)

/-! ## Modifiers -/

/-- The names of modifiers, in lower case. -/
def modifierNames : List String :=
  ["ctrl", "control", "shift", "alt", "meta", "win", "cmd", "gui"]

/-- A modifier name, in any letter case. -/
def IsModifier (name : String) : Prop := toLowercase name ∈ modifierNames

instance (name : String) : Decidable (IsModifier name) := inferInstanceAs (Decidable (_ ∈ _))

theorem isModifier_iff (name : String) :
    IsModifier name ↔ (modifierCode name).isSome = true := by
  unfold IsModifier modifierCode
  split <;> simp_all [modifierNames]

/-- The code of a modifier is not zero. -/
theorem modifierCode_ne_zero {name : String} {code : UInt8} (h : modifierCode name = some code) :
    code ≠ 0 := by
  unfold modifierCode at h
  split at h <;> cases h <;> decide

/-- The loop gives up at the first part that is no modifier. -/
theorem placeModifiers_eq_none {mods : List String} {name : String} (hmem : name ∈ mods)
    (hname : modifierCode name = none) (report : Vector UInt8 8) (modIdx : ℕ) :
    placeModifiers mods report modIdx = none := by
  induction mods generalizing report modIdx with
  | nil => cases hmem
  | cons m mods ih =>
    unfold placeModifiers
    rcases List.mem_cons.mp hmem with rfl | hmem
    · rw [hname]
    · cases modifierCode m with
      | none => rfl
      | some code =>
        dsimp only
        split
        · exact ih hmem _ _
        · exact ih hmem _ _

/-- The loop over modifiers: each code goes to the next byte as long as there is one of the first
five left, and the other bytes stay as they are. -/
theorem placeModifiers_eq_some {mods : List String}
    (hmods : ∀ m ∈ mods, (modifierCode m).isSome = true) (report : Vector UInt8 8) (modIdx : ℕ) :
    ∃ r, placeModifiers mods report modIdx = some r ∧ ∀ i (_ : i < 8), r[i] =
      if modIdx ≤ i ∧ i < 5 then ((mods[i - modIdx]?).bind modifierCode).getD report[i]
      else report[i] := by
  induction mods generalizing report modIdx with
  | nil => exact ⟨report, rfl, fun i hi => by simp⟩
  | cons m mods ih =>
    obtain ⟨code, hcode⟩ := Option.isSome_iff_exists.mp (hmods m List.mem_cons_self)
    have hrest : ∀ m ∈ mods, (modifierCode m).isSome = true :=
      fun m hm => hmods m (List.mem_cons_of_mem _ hm)
    unfold placeModifiers
    simp only [hcode]
    by_cases hfree : modIdx < 5
    -- the code goes to the byte at `modIdx`, and the rest behind it
    · obtain ⟨r, hr, hbytes⟩ := ih hrest (report.set modIdx code) (modIdx + 1)
      rw [dif_pos hfree]
      refine ⟨r, hr, fun i hi => ?_⟩
      rw [hbytes i hi]
      rcases Nat.lt_trichotomy i modIdx with hlt | rfl | hgt
      · rw [if_neg (by omega), if_neg (by omega), Vector.getElem_set_ne _ _ (by omega)]
      · rw [if_neg (by omega), if_pos ⟨le_rfl, hfree⟩, Nat.sub_self, Vector.getElem_set_self]
        simp [hcode]
      · obtain ⟨k, rfl⟩ : ∃ k, i = modIdx + 1 + k := Nat.exists_eq_add_of_le hgt
        have hidx : modIdx + 1 + k - modIdx = k + 1 := by omega
        rw [Vector.getElem_set_ne _ _ (by omega), Nat.add_sub_cancel_left, hidx,
          List.getElem?_cons_succ]
        congr 1
        exact propext ⟨fun h => ⟨by omega, h.2⟩, fun h => ⟨by omega, h.2⟩⟩
    -- the five bytes are used up
    · rw [dif_neg hfree]
      obtain ⟨r, hr, hbytes⟩ := ih hrest report modIdx
      refine ⟨r, hr, fun i hi => ?_⟩
      rw [hbytes i hi, if_neg (by omega), if_neg (by omega)]

/-! ## Parts -/

theorem splitPlus_ne_nil (text : String) : splitPlus text ≠ [] := by
  rw [splitPlus, Ne, List.map_eq_nil_iff]
  exact List.splitOn_ne_nil _ _

/-- The last part names the key, and the parts before it name modifiers. -/
theorem parseKeyCombo_eq {text : String} {mods : List String} {name : String}
    (h : splitPlus text = mods ++ [name]) :
    parseKeyCombo text = (placeModifiers mods (Vector.replicate 8 0) 0).bind fun report =>
      (keyNameToCode name).map fun code => report.set 5 code := by
  have hmods : (splitPlus text).take ((splitPlus text).length - 1) = mods := by
    rw [h, List.length_append, List.length_singleton, Nat.add_sub_cancel, List.take_left]
  have hname : (splitPlus text).drop ((splitPlus text).length - 1) = [name] := by
    rw [h, List.length_append, List.length_singleton, Nat.add_sub_cancel, List.drop_left]
  simp only [parseKeyCombo, hmods, hname, List.head?_cons, Option.bind_eq_bind,
    Option.bind_some, Option.map_eq_bind]
  rfl

/-- The report of a combo whose modifiers are all known. -/
theorem parseKeyCombo_of_modifiers {text : String} {mods : List String} {name : String}
    (h : splitPlus text = mods ++ [name]) (hmods : ∀ m ∈ mods, IsModifier m) :
    ∃ report : Vector UInt8 8,
      parseKeyCombo text = (keyNameToCode name).map (fun code => report.set 5 code) ∧
      (∀ i (_ : i < 5), report[i] = ((mods[i]?).bind modifierCode).getD 0) ∧
      report[6] = 0 ∧ report[7] = 0 := by
  obtain ⟨report, hreport, hbytes⟩ := placeModifiers_eq_some
    (fun m hm => (isModifier_iff m).mp (hmods m hm)) (Vector.replicate 8 0) 0
  refine ⟨report, by rw [parseKeyCombo_eq h, hreport, Option.bind_some], fun i hi => ?_, ?_, ?_⟩
  · rw [hbytes i (by omega), if_pos ⟨Nat.zero_le _, hi⟩, Vector.getElem_replicate, Nat.sub_zero]
  · rw [hbytes 6 (by omega), if_neg (by omega), Vector.getElem_replicate]
  · rw [hbytes 7 (by omega), if_neg (by omega), Vector.getElem_replicate]

/-- The non-zero bytes that modifiers are placed in. -/
theorem mem_modifier_bytes_iff {mods : List String} {report : Vector UInt8 8}
    (hmods : ∀ m ∈ mods, IsModifier m)
    (hbytes : ∀ i (_ : i < 5), report[i] = ((mods[i]?).bind modifierCode).getD 0) (b : UInt8) :
    (b ≠ 0 ∧ ∃ (i : ℕ) (_ : i < 5), report[i] = b) ↔
      ∃ m ∈ mods.take 5, modifierCode m = some b := by
  constructor
  · rintro ⟨hb, i, hi, rfl⟩
    rw [hbytes i hi] at hb ⊢
    cases hm : mods[i]? with
    | none => simp [hm] at hb
    | some m =>
      obtain ⟨code, hcode⟩ := Option.isSome_iff_exists.mp
        ((isModifier_iff m).mp (hmods m (List.mem_of_getElem? hm)))
      refine ⟨m, List.mem_of_getElem? (i := i) ?_, ?_⟩
      · rw [List.getElem?_take_of_lt hi, hm]
      · rw [Option.bind_some, hcode, Option.getD_some]
  · rintro ⟨m, hmem, hcode⟩
    obtain ⟨i, hi, rfl⟩ := List.mem_iff_getElem.mp hmem
    have hi5 : i < 5 := lt_of_lt_of_le hi (List.length_take_le _ _)
    refine ⟨modifierCode_ne_zero hcode, i, hi5, ?_⟩
    rw [List.getElem_take] at hcode
    have hlen : i < mods.length := lt_of_lt_of_le hi (List.length_take_le' _ _)
    rw [hbytes i hi5, List.getElem?_eq_getElem hlen, Option.bind_some, hcode, Option.getD_some]

/-- The report of a combo: the codes of the first five modifiers, and the code of the key. -/
structure ReportOf (text : String) (r : Vector UInt8 8) : Prop where
  modifiers : ∀ b, (b ≠ 0 ∧ ∃ (i : ℕ) (_ : i < 5), r[i] = b) ↔
    ∃ m ∈ (splitPlus text).dropLast.take 5, modifierCode m = some b
  key : (splitPlus text).getLast?.bind keyNameToCode = some r[5]
  reserved : r[6] = 0 ∧ r[7] = 0

/-- For every string: it is accepted exactly when all its parts but the last are modifier names and
the last is the name of a key, and the report has the codes of the first five modifiers named, the
code of the key, and two zeros. -/
theorem parseKeyCombo_spec (text : String) :
    ((parseKeyCombo text).isSome = true ↔ (∀ m ∈ (splitPlus text).dropLast, IsModifier m) ∧
      ((splitPlus text).getLast?.bind keyNameToCode).isSome = true) ∧
    ∀ r, parseKeyCombo text = some r → ReportOf text r := by
  obtain ⟨mods, name, hparts⟩ : ∃ mods name, splitPlus text = mods ++ [name] :=
    ⟨_, _, (List.dropLast_append_getLast (splitPlus_ne_nil text)).symm⟩
  have hlast : (splitPlus text).getLast?.bind keyNameToCode = keyNameToCode name := by
    rw [hparts, List.getLast?_concat, Option.bind_some]
  have hmodsEq : (splitPlus text).dropLast = mods := by rw [hparts, List.dropLast_concat]
  rw [hlast, hmodsEq]
  by_cases hmods : ∀ m ∈ mods, IsModifier m
  · obtain ⟨report, hparse, hbytes, hreserved⟩ := parseKeyCombo_of_modifiers hparts hmods
    refine ⟨by rw [hparse, Option.isSome_map, and_iff_right hmods], fun r hr => ?_⟩
    obtain ⟨code, hcode, rfl⟩ := Option.map_eq_some_iff.mp (hparse ▸ hr)
    refine ⟨fun b => ?_, ?_, ?_⟩
    · rw [hmodsEq, ← mem_modifier_bytes_iff hmods hbytes]
      refine and_congr_right fun _ => exists_congr fun i => exists_congr fun hi => ?_
      rw [Vector.getElem_set_ne _ _ (by omega)]
    · rw [hlast, hcode, Vector.getElem_set_self]
    · rw [Vector.getElem_set_ne _ _ (by decide), Vector.getElem_set_ne _ _ (by decide)]
      exact hreserved
  · push Not at hmods
    obtain ⟨m, hmem, hm⟩ := hmods
    have hnone : parseKeyCombo text = none := by
      rw [isModifier_iff, Bool.not_eq_true, Option.isSome_eq_false_iff, Option.isNone_iff_eq_none]
        at hm
      rw [parseKeyCombo_eq hparts, placeModifiers_eq_none hmem hm, Option.bind_none]
    rw [hnone]
    exact ⟨iff_of_false (by simp) fun h => hm (h.1 m hmem), nofun⟩

/-- Five times Ctrl, and Alt: the report has no place left for the code of Alt. -/
theorem sixth_modifier_dropped :
    ¬ ∀ text r, parseKeyCombo text = some r →
      ∀ b, (b ≠ 0 ∧ ∃ (i : ℕ) (_ : i < 5), r[i] = b) ↔
        ∃ m ∈ (splitPlus text).dropLast, modifierCode m = some b := by
  intro hclaim
  have hparse : parseKeyCombo "ctrl+ctrl+ctrl+ctrl+ctrl+alt+a" =
      some #v[0x80, 0x80, 0x80, 0x80, 0x80, 0x61, 0, 0] := by decide +kernel
  have hnamed : "alt" ∈ (splitPlus "ctrl+ctrl+ctrl+ctrl+ctrl+alt+a").dropLast := by decide +kernel
  obtain ⟨-, i, hi, hbyte⟩ := (hclaim _ _ hparse 0x82).mpr ⟨"alt", hnamed, by decide +kernel⟩
  revert i
  decide

/-! ## Printable characters -/

/-- No modifier name contains the separator. -/
theorem plus_not_mem_of_isModifier {name : String} (h : IsModifier name) : '+' ∉ name.toList := by
  intro hplus
  -- it would still be there in lower case
  have hlower : '+' ∈ (toLowercase name).toList := by
    rw [toLowercase, String.toList_ofList]
    exact List.mem_map.mpr ⟨'+', hplus, by decide⟩
  have hnames : ∀ lower ∈ modifierNames, '+' ∉ lower.toList := by decide +kernel
  exact hnames _ h hlower

/-- Splitting undoes joining, when no part contains the separator. -/
theorem splitPlus_intercalate {parts : List String} (hparts : ∀ part ∈ parts, '+' ∉ part.toList)
    (hne : parts ≠ []) : splitPlus ("+".intercalate parts) = parts := by
  rw [splitPlus, String.toList_intercalate, show "+".toList = ['+'] from rfl,
    List.splitOn_intercalate '+' _ (by simpa using hne), List.map_map]
  · simp [Function.comp_def]
  · intro cs hcs
    obtain ⟨part, hpart, rfl⟩ := List.mem_map.mp hcs
    exact hparts part hpart

/-- A `+` at the end is read as a separator with nothing around it. -/
theorem intercalate_plus (names : List String) :
    "+".intercalate (names ++ ["+"]) = "+".intercalate (names ++ ["", ""]) := by
  induction names with
  | nil => rfl
  | cons name names ih =>
    rw [List.cons_append, List.cons_append, String.intercalate_cons_of_ne_nil (by simp), ih,
      String.intercalate_cons_of_ne_nil (by simp)]

/-- A single printable character names the key of its own code, in lower case. -/
theorem keyNameToCode_singleton {c : Char} (hc : 0x20 ≤ c.toNat ∧ c.toNat ≤ 0x7E) :
    keyNameToCode (String.singleton c) = some (UInt8.ofNat c.toLower.toNat) := by
  have htable : ∀ n < 0x5F, keyNameToCode (String.singleton (.ofNat (0x20 + n))) =
      some (UInt8.ofNat (Char.ofNat (0x20 + n)).toLower.toNat) := by decide +kernel
  have hcode := htable (c.toNat - 0x20) (by omega)
  rwa [Nat.add_sub_cancel' hc.1, Char.ofNat_toNat] at hcode

/-- For every list of modifier names and every printable ASCII character: the combo of them presses
the character, in lower case, exactly when the character is not `+`. -/
theorem printable_pressed_iff {names : List String} (hnames : ∀ name ∈ names, IsModifier name)
    {c : Char} (hc : 0x20 ≤ c.toNat ∧ c.toNat ≤ 0x7E) :
    (∃ r, parseKeyCombo ("+".intercalate (names ++ [String.singleton c])) = some r ∧
      r[5] = UInt8.ofNat c.toLower.toNat) ↔ c ≠ '+' := by
  constructor
  · rintro ⟨r, hr, -⟩ rfl
    -- the last part is empty, and names no key
    have hsplit : splitPlus ("+".intercalate (names ++ ["", ""])) = (names ++ [""]) ++ [""] := by
      rw [splitPlus_intercalate ?_ (by simp), List.append_assoc]
      · rfl
      · intro part hpart
        rcases List.mem_append.mp hpart with hpart | hpart
        · exact plus_not_mem_of_isModifier (hnames part hpart)
        · have hempty : part = "" := by simpa using hpart
          simp [hempty]
    have hnone : keyNameToCode "" = none := by decide +kernel
    rw [show String.singleton '+' = "+" from rfl, intercalate_plus, parseKeyCombo_eq hsplit,
      hnone] at hr
    obtain ⟨report, -, hreport⟩ := Option.bind_eq_some_iff.mp hr
    cases hreport
  · intro hplus
    have hsplit : splitPlus ("+".intercalate (names ++ [String.singleton c])) =
        names ++ [String.singleton c] := by
      refine splitPlus_intercalate (fun part hpart => ?_) (by simp)
      rcases List.mem_append.mp hpart with hpart | hpart
      · exact plus_not_mem_of_isModifier (hnames part hpart)
      · rw [List.mem_singleton.mp hpart]
        simpa using hplus.symm
    obtain ⟨report, hparse, -⟩ := parseKeyCombo_of_modifiers hsplit hnames
    rw [keyNameToCode_singleton hc, Option.map_some] at hparse
    exact ⟨_, hparse, Vector.getElem_set_self _⟩

/-- Ctrl, Alt and a capital T. -/
theorem printable_pressed_sample :
    ∃ r, parseKeyCombo ("+".intercalate (["Ctrl", "ALT"] ++ [String.singleton 'T'])) = some r ∧
      r[5] = UInt8.ofNat 'T'.toLower.toNat :=
  (printable_pressed_iff (by decide +kernel) (by decide)).mpr (by decide)

/-- Shift and `+`. -/
theorem plus_unpressable :
    ¬ ∀ names : List String, (∀ name ∈ names, IsModifier name) → ∀ c : Char,
      0x20 ≤ c.toNat ∧ c.toNat ≤ 0x7E →
      ∃ r, parseKeyCombo ("+".intercalate (names ++ [String.singleton c])) = some r ∧
        r[5] = UInt8.ofNat c.toLower.toNat := by
  intro hclaim
  obtain ⟨r, hr, -⟩ := hclaim ["shift"] (by decide +kernel) '+' (by decide)
  have hnone : parseKeyCombo ("+".intercalate (["shift"] ++ [String.singleton '+'])) = none := by
    decide +kernel
  rw [hnone] at hr
  cases hr

end Mcp

end ToothPaste
