import ToothPaste.Lib.Ascii
import ToothPaste.Lib.Scanner

/-!
# JSON objects of strings

The text of a JSON object whose members are strings, as a compact serialiser writes it: UTF-8
bytes, no white space, `"` and `\` and the control characters escaped. `scanner` reads such texts
back; it is a `Scanner`, so that a text cut short is refused.

* `decode_encode`: an object decodes to the members it was encoded from.
* `decode_cut`: a proper prefix of an object's text does not decode.
-/

namespace JsonObject

/-! ## Writing -/

/-- The lower-case hexadecimal digit of a nibble. -/
def hexDigit (n : ℕ) : UInt8 := if n < 10 then UInt8.ofNat (48 + n) else UInt8.ofNat (87 + n)

/-- The value of a hexadecimal digit. -/
def hexValue (b : UInt8) : Option ℕ :=
  if 48 ≤ b ∧ b ≤ 57 then some (b.toNat - 48)
  else if 97 ≤ b ∧ b ≤ 102 then some (b.toNat - 87)
  else if 65 ≤ b ∧ b ≤ 70 then some (b.toNat - 55)
  else none

/-- The letter of a short escape: `b`, `t`, `n`, `f`, `r`. -/
def shortEscape (b : UInt8) : Option UInt8 :=
  if b = 8 then some 98
  else if b = 9 then some 116
  else if b = 10 then some 110
  else if b = 12 then some 102
  else if b = 13 then some 114
  else if b = 34 then some 34
  else if b = 92 then some 92
  else none

/-- A byte of a string as it is written between the quotes. -/
def escapeByte (b : UInt8) : List UInt8 :=
  match shortEscape b with
  | some letter => [92, letter]
  | none =>
    if b < 32 then [92, 117, 48, 48, hexDigit (b.toNat / 16), hexDigit (b.toNat % 16)] else [b]

/-- The bytes of a string. -/
def bytesOf (s : String) : List UInt8 := s.toUTF8.data.toList

/-- A string in quotes. -/
def encodeString (s : String) : List UInt8 :=
  34 :: ((bytesOf s).flatMap escapeByte ++ [34])

/-- A member, `"key":"value"`. -/
def encodeMember (member : String × String) : List UInt8 :=
  encodeString member.1 ++ 58 :: encodeString member.2

/-- The members after the first, each after a comma, and the closing brace. -/
def encodeTail : List (String × String) → List UInt8
  | [] => [125]
  | member :: members => 44 :: (encodeMember member ++ encodeTail members)

/-- The text of an object. -/
def encode : List (String × String) → List UInt8
  | [] => [123, 125]
  | member :: members => 123 :: (encodeMember member ++ encodeTail members)

/-! ## Reading -/

/-- Where the scanner is inside a string. -/
inductive Mode where
  | plain
  | escaped
  | hex (digits value : ℕ)
  deriving DecidableEq

/-- Where the scanner is in an object. Members read so far are kept last first, and so are the
bytes of the string being read. -/
inductive State where
  | start
  | opened
  | comma (members : List (String × String))
  | string (members : List (String × String)) (key : Option String) (bytes : List UInt8)
      (mode : Mode)
  | afterKey (members : List (String × String)) (key : String)
  | colon (members : List (String × String)) (key : String)
  | afterValue (members : List (String × String))
  | closed (members : List (String × String))

/-- The byte a short escape stands for. -/
def unescape (letter : UInt8) : Option UInt8 :=
  if letter = 98 then some 8
  else if letter = 116 then some 9
  else if letter = 110 then some 10
  else if letter = 102 then some 12
  else if letter = 114 then some 13
  else if letter = 34 ∨ letter = 47 ∨ letter = 92 then some letter
  else none

/-- The string of its bytes, last first; bytes that are not UTF-8 are refused. Bytes that are all
ASCII need no check. -/
def stringOf (bytes : List UInt8) : Option String :=
  if bytes.all fun b => b.toNat < 128 then some (Ascii.ofBytes bytes.reverse)
  else String.fromUTF8? ⟨bytes.reverse.toArray⟩

/-- The closing quote of a key or of a value. -/
def closeString (members : List (String × String)) (key : Option String) (bytes : List UInt8) :
    Option State :=
  match stringOf bytes, key with
  | none, _ => none
  | some s, none => some (.afterKey members s)
  | some s, some key => some (.afterValue ((key, s) :: members))

/-- One byte inside a string. -/
def stringStep (members : List (String × String)) (key : Option String) (bytes : List UInt8)
    (mode : Mode) (b : UInt8) : Option State :=
  match mode with
  | .plain =>
    if b = 34 then closeString members key bytes
    else if b = 92 then some (.string members key bytes .escaped)
    else if b < 32 then none
    else some (.string members key (b :: bytes) .plain)
  | .escaped =>
    if b = 117 then some (.string members key bytes (.hex 0 0))
    else (unescape b).map fun c => .string members key (c :: bytes) .plain
  | .hex digits value =>
    (hexValue b).bind fun v =>
      if digits < 3 then some (.string members key bytes (.hex (digits + 1) (value * 16 + v)))
      -- only ASCII is ever escaped; other code points are written as they are
      else if value * 16 + v < 128 then
        some (.string members key (UInt8.ofNat (value * 16 + v) :: bytes) .plain)
      else none

/-- One byte of an object. -/
def step : State → UInt8 → Option State
  | .start, b => if b = 123 then some .opened else none
  | .opened, b =>
    if b = 34 then some (.string [] none [] .plain)
    else if b = 125 then some (.closed [])
    else none
  | .comma members, b => if b = 34 then some (.string members none [] .plain) else none
  | .string members key bytes mode, b => stringStep members key bytes mode b
  | .afterKey members key, b => if b = 58 then some (.colon members key) else none
  | .colon members key, b => if b = 34 then some (.string members (some key) [] .plain) else none
  | .afterValue members, b =>
    if b = 44 then some (.comma members)
    else if b = 125 then some (.closed members)
    else none
  | .closed _, _ => none

/-- The members of a closed object. -/
def result : State → Option (List (String × String))
  | .closed members => some members.reverse
  | _ => none

/-- The scanner of objects of strings. -/
def scanner : Scanner UInt8 State (List (String × String)) where
  start := .start
  step := step
  result := result

/-- The members of the object a text spells out. -/
def decode (text : List UInt8) : Option (List (String × String)) := scanner.decode text

/-! ## Round trip -/

theorem hexValue_hexDigit {n : ℕ} (h : n < 16) : hexValue (hexDigit n) = some n := by
  have hall : ∀ n < 16, hexValue (hexDigit n) = some n := by decide
  exact hall n h

theorem unescape_of_shortEscape {b letter : UInt8} (h : shortEscape b = some letter) :
    letter ≠ 117 ∧ unescape letter = some b := by
  unfold shortEscape at h
  split_ifs at h <;> (subst_vars; cases h; decide)

theorem plain_of_shortEscape {b : UInt8} (h : shortEscape b = none) : b ≠ 34 ∧ b ≠ 92 := by
  constructor <;> (rintro rfl; simp [shortEscape] at h)

variable {members : List (String × String)} {key : Option String} {bytes text : List UInt8}

/-- Between the quotes nothing is final. -/
theorem scan_string {mode : Mode} {b : UInt8} {t : State}
    (h : stringStep members key bytes mode b = some t) (text : List UInt8) :
    scanner.scan (.string members key bytes mode) (b :: text) = scanner.scan t text :=
  Scanner.scan_cons rfl h text

/-- An escaped byte is read as the byte it stands for. -/
theorem scan_escapeByte (b : UInt8) (text : List UInt8) :
    scanner.scan (.string members key bytes .plain) (escapeByte b ++ text) =
      scanner.scan (.string members key (b :: bytes) .plain) text := by
  have hb := b.toNat_lt
  unfold escapeByte
  split
  next letter h =>
    obtain ⟨hne, hun⟩ := unescape_of_shortEscape h
    -- a backslash and a letter
    simp only [List.cons_append, List.nil_append]
    rw [scan_string (t := .string members key bytes .escaped) (by simp [stringStep]),
      scan_string (t := .string members key (b :: bytes) .plain) (by simp [stringStep, hne, hun])]
  next h =>
    obtain ⟨hquote, hslash⟩ := plain_of_shortEscape h
    split_ifs with hctl
    -- a control character: six bytes, of which the last two are the digits of its value
    · have hlt : b.toNat < 32 := by simpa [UInt8.lt_iff_toNat_lt] using hctl
      have hhi := hexValue_hexDigit (show b.toNat / 16 < 16 by omega)
      have hlo := hexValue_hexDigit (show b.toNat % 16 < 16 by omega)
      have hzero : hexValue 48 = some 0 := by decide
      have hval : b.toNat / 16 * 16 + b.toNat % 16 = b.toNat := by omega
      simp only [List.cons_append, List.nil_append]
      rw [scan_string (t := .string members key bytes .escaped) (by simp [stringStep]),
        scan_string (t := .string members key bytes (.hex 0 0)) (by simp [stringStep]),
        scan_string (t := .string members key bytes (.hex 1 0)) (by simp [stringStep, hzero]),
        scan_string (t := .string members key bytes (.hex 2 0)) (by simp [stringStep, hzero]),
        scan_string (t := .string members key bytes (.hex 3 (b.toNat / 16)))
          (by simp [stringStep, hhi]),
        scan_string (t := .string members key (b :: bytes) .plain)
          (by simp only [stringStep, hlo, Option.bind_some, hval, Nat.lt_irrefl, ↓reduceIte,
            show b.toNat < 128 by omega, UInt8.ofNat_toNat])]
    -- any other byte stands for itself
    · simp only [List.cons_append, List.nil_append]
      exact scan_string (by simp [stringStep, hquote, hslash, hctl]) text

/-- The escaped bytes of a string are read as its bytes. -/
theorem scan_escaped (bs : List UInt8) (text : List UInt8) :
    scanner.scan (.string members key bytes .plain) (bs.flatMap escapeByte ++ text) =
      scanner.scan (.string members key (bs.reverse ++ bytes) .plain) text := by
  induction bs generalizing bytes with
  | nil => rfl
  | cons b bs ih =>
    rw [List.flatMap_cons, List.append_assoc, scan_escapeByte, ih]
    simp

theorem stringOf_bytesOf (s : String) : stringOf (bytesOf s).reverse = some s := by
  have hbytes : (⟨(bytesOf s).reverse.reverse.toArray⟩ : ByteArray) = s.toByteArray := by
    simp [bytesOf, String.toUTF8]
  rw [stringOf, hbytes]
  split_ifs with hascii
  · have hbytes : ∀ b ∈ bytesOf s, b.toNat < 128 := by simpa using hascii
    rw [List.reverse_reverse, bytesOf, Ascii.ofBytes_bytes hbytes]
  · rw [String.fromUTF8?, dif_pos s.isValidUTF8]
    rfl

/-- A string in quotes is read as that string. -/
theorem scan_encodeString (s : String) {t : State}
    (hclose : (match key with
      | none => .afterKey members s
      | some k => .afterValue ((k, s) :: members)) = t) (text : List UInt8) :
    scanner.scan (.string members key [] .plain)
        ((bytesOf s).flatMap escapeByte ++ 34 :: text) = scanner.scan t text := by
  rw [scan_escaped, List.append_nil]
  refine scan_string ?_ text
  subst hclose
  cases key <;> simp [stringStep, closeString, stringOf_bytesOf]

/-- A member is read as that member. -/
theorem scan_encodeMember (member : String × String) {s : State} {members}
    (hresult : result s = none) (hstep : step s 34 = some (.string members none [] .plain))
    (text : List UInt8) :
    scanner.scan s (encodeMember member ++ text) =
      scanner.scan (.afterValue (member :: members)) text := by
  obtain ⟨key, value⟩ := member
  simp only [encodeMember, encodeString, List.cons_append, List.append_assoc, List.nil_append]
  -- a quote, the key, a colon, a quote, the value
  rw [Scanner.scan_cons (S := scanner) hresult hstep, scan_encodeString key rfl,
    Scanner.scan_cons (S := scanner) (t := .colon members key) rfl rfl,
    Scanner.scan_cons (S := scanner) (t := .string members (some key) [] .plain) rfl rfl,
    scan_encodeString value rfl]

/-- The remaining members are read as those members. -/
theorem scan_encodeTail (rest : List (String × String)) {members} :
    scanner.scan (.afterValue members) (encodeTail rest) =
      some (members.reverse ++ rest, []) := by
  induction rest generalizing members with
  | nil =>
    rw [encodeTail, Scanner.scan_cons (S := scanner) (t := .closed members) rfl rfl,
      Scanner.scan_of_result (S := scanner) (s := .closed members) rfl, List.append_nil]
  | cons member rest ih =>
    rw [encodeTail, Scanner.scan_cons (S := scanner) (t := .comma members) rfl rfl,
      scan_encodeMember member rfl rfl, ih]
    simp

/-- An object decodes to the members it was encoded from. -/
theorem decode_encode (members : List (String × String)) :
    decode (encode members) = some members := by
  rw [decode, Scanner.decode_eq_some_iff]
  cases members with
  | nil => rfl
  | cons member rest =>
    rw [encode]
    refine (Scanner.scan_cons (S := scanner) (t := .opened) rfl rfl _).trans ?_
    rw [scan_encodeMember member rfl rfl, scan_encodeTail]
    rfl

/-- A proper prefix of an object's text does not decode. -/
theorem decode_cut {members : List (String × String)} {cut : List UInt8}
    (hcut : cut <+: encode members) (hne : cut ≠ encode members) : decode cut = none :=
  Scanner.decode_cut (decode_encode members) hcut hne

end JsonObject
