import Mathlib.Data.List.Basic

/-!
# ASCII strings

A string whose bytes are all below 128 is the list of its bytes as characters. `chars` and
`ofBytes` go from strings to characters and from bytes to strings without decoding UTF-8, which
makes long ASCII texts cheap to compute with.
-/

namespace Ascii

/-- The characters of an ASCII string, read off its UTF-8 bytes. -/
def chars (text : String) : List Char :=
  text.toUTF8.data.toList.map fun b => Char.ofNat b.toNat

/-- The string of ASCII bytes. -/
def ofBytes (bytes : List UInt8) : String :=
  String.ofList (bytes.map fun b => Char.ofNat b.toNat)

/-- The bytes of a string are the encodings of its characters. -/
theorem toUTF8_ofList (chars : List Char) :
    (String.ofList chars).toUTF8.data.toList = chars.flatMap String.utf8EncodeChar := by
  simp [String.toUTF8, List.utf8Encode]

/-- An ASCII character is encoded as one byte. -/
theorem utf8EncodeChar_eq {c : Char} (h : c.toNat < 128) :
    String.utf8EncodeChar c = [UInt8.ofNat c.toNat] := by
  have hc : c.toNat ≤ 127 := by omega
  simp [String.utf8EncodeChar, hc]

/-- A byte below 128 in the encoding of a character is the character itself. -/
theorem eq_of_mem_utf8EncodeChar {c : Char} {b : UInt8} (hb : b.toNat < 128)
    (hmem : b ∈ String.utf8EncodeChar c) : c.toNat = b.toNat := by
  rw [String.utf8EncodeChar] at hmem
  split_ifs at hmem with h1 h2 h3
  · obtain rfl := List.mem_singleton.mp hmem
    have hsmall : c.val.toNat < UInt8.size := Nat.lt_of_le_of_lt h1 (by decide)
    exact (UInt8.toNat_ofNat_of_lt hsmall).symm
  -- every byte of a longer encoding is 128 at least
  · simp only [List.mem_cons, List.not_mem_nil, or_false] at hmem
    rcases hmem with rfl | rfl <;> simp at hb <;> omega
  · simp only [List.mem_cons, List.not_mem_nil, or_false] at hmem
    rcases hmem with rfl | rfl | rfl <;> simp at hb <;> omega
  · simp only [List.mem_cons, List.not_mem_nil, or_false] at hmem
    rcases hmem with rfl | rfl | rfl | rfl <;> simp at hb <;> omega

/-- A byte below 128 of a string is one of its characters. -/
theorem exists_mem_of_mem_toUTF8 {s : String} {b : UInt8} (hb : b.toNat < 128)
    (hmem : b ∈ s.toUTF8.data.toList) : ∃ c ∈ s.toList, c.toNat = b.toNat := by
  rw [← String.ofList_toList (s := s), toUTF8_ofList] at hmem
  obtain ⟨c, hc, hbyte⟩ := List.mem_flatMap.mp hmem
  exact ⟨c, hc, eq_of_mem_utf8EncodeChar hb hbyte⟩

/-- An ASCII character of a string is one of its bytes. -/
theorem mem_toUTF8 {s : String} {c : Char} (hc : c.toNat < 128) (hmem : c ∈ s.toList) :
    UInt8.ofNat c.toNat ∈ s.toUTF8.data.toList := by
  rw [← String.ofList_toList (s := s), toUTF8_ofList]
  refine List.mem_flatMap.mpr ⟨c, hmem, ?_⟩
  rw [utf8EncodeChar_eq hc]
  exact List.mem_singleton_self _

/-- The characters of a string made of ASCII characters are these characters. -/
theorem chars_ofList {chars : List Char} (h : ∀ c ∈ chars, c.toNat < 128) :
    Ascii.chars (String.ofList chars) = chars := by
  rw [Ascii.chars, toUTF8_ofList]
  induction chars with
  | nil => rfl
  | cons c chars ih =>
    have hc : c.toNat < 128 := h c List.mem_cons_self
    have hbyte : (UInt8.ofNat c.toNat).toNat = c.toNat :=
      UInt8.toNat_ofNat_of_lt (by rw [UInt8.size]; omega)
    rw [List.flatMap_cons, List.map_append, utf8EncodeChar_eq hc,
      ih fun d hd => h d (List.mem_cons_of_mem c hd)]
    simp [hbyte]

/-- A string whose bytes are ASCII is the string of these bytes. -/
theorem ofBytes_bytes {s : String} (h : ∀ b ∈ s.toUTF8.data.toList, b.toNat < 128) :
    ofBytes s.toUTF8.data.toList = s := by
  have hall : ∀ n < 128, (Char.ofNat n).toNat = n := by decide
  have hflat : ∀ bytes : List UInt8, (∀ b ∈ bytes, b.toNat < 128) →
      (bytes.map fun b => Char.ofNat b.toNat).flatMap String.utf8EncodeChar = bytes := by
    intro bytes hb
    induction bytes with
    | nil => rfl
    | cons b bytes ih =>
      have hlt : b.toNat < 128 := hb b List.mem_cons_self
      have hchar : (Char.ofNat b.toNat).toNat = b.toNat := hall _ hlt
      rw [List.map_cons, List.flatMap_cons, utf8EncodeChar_eq (by rwa [hchar]), hchar,
        ih fun d hd => hb d (List.mem_cons_of_mem b hd), UInt8.ofNat_toNat]
      rfl
  apply String.toByteArray_inj.mp
  apply ByteArray.ext
  apply Array.ext'
  exact (toUTF8_ofList _).trans (hflat _ h)

end Ascii
