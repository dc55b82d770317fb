import ToothPaste.Lib.Ascii

/-!
# Base64

The standard alphabet with padding: three bytes as four digits, a final group of one or two bytes
padded with `=`. Decoding refuses every text the encoder does not produce: stray characters,
padding before the end, and bits left over under the padding that are not zero.

The main results are `decode_encode` and, for texts as strings, `decodeText_encodeText`.
-/

namespace Base64

/-- The digit of a sextet. -/
def digit (n : ℕ) : Char :=
  if n < 26 then Char.ofNat (65 + n)
  else if n < 52 then Char.ofNat (97 + (n - 26))
  else if n < 62 then Char.ofNat (48 + (n - 52))
  else if n = 62 then '+'
  else '/'

/-- The sextet of a digit. -/
def value (c : Char) : Option ℕ :=
  let n := c.toNat
  if 65 ≤ n ∧ n ≤ 90 then some (n - 65)
  else if 97 ≤ n ∧ n ≤ 122 then some (n - 97 + 26)
  else if 48 ≤ n ∧ n ≤ 57 then some (n - 48 + 52)
  else if n = 43 then some 62
  else if n = 47 then some 63
  else none

/-- The padding character. -/
def pad : Char := '='

theorem value_digit {n : ℕ} (h : n < 64) : value (digit n) = some n := by
  have hall : ∀ n < 64, value (digit n) = some n := by decide
  exact hall n h

theorem digit_ne_pad {n : ℕ} (h : n < 64) : digit n ≠ pad := by
  have hall : ∀ n < 64, digit n ≠ pad := by decide
  exact hall n h

/-- The text of a byte string. -/
def encode : List UInt8 → List Char
  | [] => []
  | [a] => [digit (a.toNat / 4), digit (a.toNat % 4 * 16), pad, pad]
  | [a, b] =>
    [digit (a.toNat / 4), digit (a.toNat % 4 * 16 + b.toNat / 16), digit (b.toNat % 16 * 4), pad]
  | a :: b :: c :: rest =>
    digit (a.toNat / 4) :: digit (a.toNat % 4 * 16 + b.toNat / 16) ::
      digit (b.toNat % 16 * 4 + c.toNat / 64) :: digit (c.toNat % 64) :: encode rest

/-- A final group of two digits. -/
def decodeOne (w x : Char) : Option (List UInt8) := do
  let p ← value w
  let q ← value x
  -- the low four bits are padding
  if q % 16 = 0 then some [UInt8.ofNat (p * 4 + q / 16)] else none

/-- A final group of three digits. -/
def decodeTwo (w x y : Char) : Option (List UInt8) := do
  let p ← value w
  let q ← value x
  let r ← value y
  -- the low two bits are padding
  if r % 4 = 0 then some [UInt8.ofNat (p * 4 + q / 16), UInt8.ofNat (q % 16 * 16 + r / 4)]
  else none

/-- A full group of four digits. -/
def decodeThree (w x y z : Char) : Option (List UInt8) := do
  let p ← value w
  let q ← value x
  let r ← value y
  let s ← value z
  some [UInt8.ofNat (p * 4 + q / 16), UInt8.ofNat (q % 16 * 16 + r / 4),
    UInt8.ofNat (r % 4 * 64 + s)]

/-- The byte string of a text. -/
def decode : List Char → Option (List UInt8)
  | [] => some []
  | w :: x :: y :: z :: rest =>
    if z = pad then
      if rest = [] then
        if y = pad then decodeOne w x else decodeTwo w x y
      else none
    else do
      let group ← decodeThree w x y z
      let tail ← decode rest
      some (group ++ tail)
  | _ => none

private theorem ofNat_eq {n : ℕ} {a : UInt8} (h : n = a.toNat) : UInt8.ofNat n = a := by
  rw [h, UInt8.ofNat_toNat]

theorem decodeOne_encode (a : UInt8) :
    decodeOne (digit (a.toNat / 4)) (digit (a.toNat % 4 * 16)) = some [a] := by
  have ha := a.toNat_lt
  simp only [decodeOne, value_digit (show a.toNat / 4 < 64 by omega),
    value_digit (show a.toNat % 4 * 16 < 64 by omega), Option.bind_eq_bind, Option.bind_some,
    Nat.mul_mod_left, ↓reduceIte]
  rw [ofNat_eq (a := a) (by omega)]

theorem decodeTwo_encode (a b : UInt8) :
    decodeTwo (digit (a.toNat / 4)) (digit (a.toNat % 4 * 16 + b.toNat / 16))
      (digit (b.toNat % 16 * 4)) = some [a, b] := by
  have ha := a.toNat_lt
  have hb := b.toNat_lt
  simp only [decodeTwo, value_digit (show a.toNat / 4 < 64 by omega),
    value_digit (show a.toNat % 4 * 16 + b.toNat / 16 < 64 by omega),
    value_digit (show b.toNat % 16 * 4 < 64 by omega), Option.bind_eq_bind, Option.bind_some,
    Nat.mul_mod_left, ↓reduceIte]
  rw [ofNat_eq (a := a) (by omega), ofNat_eq (a := b) (by omega)]

theorem decodeThree_encode (a b c : UInt8) :
    decodeThree (digit (a.toNat / 4)) (digit (a.toNat % 4 * 16 + b.toNat / 16))
      (digit (b.toNat % 16 * 4 + c.toNat / 64)) (digit (c.toNat % 64)) = some [a, b, c] := by
  have ha := a.toNat_lt
  have hb := b.toNat_lt
  have hc := c.toNat_lt
  simp only [decodeThree, value_digit (show a.toNat / 4 < 64 by omega),
    value_digit (show a.toNat % 4 * 16 + b.toNat / 16 < 64 by omega),
    value_digit (show b.toNat % 16 * 4 + c.toNat / 64 < 64 by omega),
    value_digit (show c.toNat % 64 < 64 by omega), Option.bind_eq_bind, Option.bind_some]
  rw [ofNat_eq (a := a) (by omega), ofNat_eq (a := b) (by omega), ofNat_eq (a := c) (by omega)]

/-- Decoding a text gives back the byte string it was encoded from. -/
theorem decode_encode (bytes : List UInt8) : decode (encode bytes) = some bytes := by
  induction bytes using encode.induct with
  | case1 => rfl
  | case2 a => simp [encode, decode, decodeOne_encode]
  | case3 a b =>
    have hy : digit (b.toNat % 16 * 4) ≠ pad := digit_ne_pad (by omega)
    simp [encode, decode, decodeTwo_encode, hy]
  | case4 a b c rest ih =>
    have hz : digit (c.toNat % 64) ≠ pad := digit_ne_pad (by omega)
    simp [encode, decode, decodeThree_encode, hz, ih]

/-! ## Texts as strings -/

theorem digit_ascii (n : ℕ) : (digit n).toNat < 128 := by
  have hall : ∀ n < 64, (digit n).toNat < 128 := by decide
  by_cases h : n < 64
  · exact hall n h
  · have hslash : digit n = '/' := by
      simp [digit, show ¬ n < 26 by omega, show ¬ n < 52 by omega, show ¬ n < 62 by omega,
        show n ≠ 62 by omega]
    rw [hslash]
    decide

/-- The alphabet is ASCII. -/
theorem encode_ascii (bytes : List UInt8) : ∀ c ∈ encode bytes, c.toNat < 128 := by
  have hpad : pad.toNat < 128 := by decide
  induction bytes using encode.induct with
  | case1 => simp [encode]
  | case2 a => simp [encode, digit_ascii, hpad]
  | case3 a b => simp [encode, digit_ascii, hpad]
  | case4 a b c rest ih => simpa [encode, digit_ascii] using ih

/-- The base64 string of a byte string. -/
def encodeText (bytes : List UInt8) : String := String.ofList (encode bytes)

/-- The byte string of a base64 string. -/
def decodeText (text : String) : Option (List UInt8) := decode (Ascii.chars text)

/-- Decoding a string gives back the byte string it was encoded from. -/
theorem decodeText_encodeText (bytes : List UInt8) :
    decodeText (encodeText bytes) = some bytes := by
  rw [decodeText, encodeText, Ascii.chars_ofList (encode_ascii bytes), decode_encode]

end Base64
