import Mathlib.Algebra.Group.Nat.Defs
import Mathlib.Data.Rat.Defs

/-!
# JSON values and schemas of objects

JSON values as a parser hands them on, with a map for each object, and the schemas that say which
members an object has: their types, the values an `enum` lists, and the members that are required.

* `Json.get`: a member of an object; `null` where there is none, and of everything else.
* `ObjectSchema.Conforms`: the value is an object, has the required members, and each of the listed
  members it has is accepted.
* `ObjectSchema.conforms_of_accepts`: a value whose members are all accepted conforms.
-/

/-- A number: an unsigned or a signed integer of 64 bits, or a finite floating-point number. -/
inductive JsonNumber where
  | posInt (value : UInt64)
  | negInt (value : Int64)
  | float (value : ℚ)
  deriving DecidableEq

/-- A JSON value. -/
inductive Json where
  | null
  | bool (value : Bool)
  | number (value : JsonNumber)
  | string (text : String)
  | array (items : List Json)
  | object (members : List (String × Json))

namespace JsonNumber

/-- The number as a signed integer of 64 bits, if it is one and was not read as a float. -/
def asI64 : JsonNumber → Option ℤ
  | posInt value => if value.toNat < 2 ^ 63 then some value.toNat else none
  | negInt value => some value.toInt
  | float _ => none

/-- The integer nearest to `n / d`, the even one of two. -/
def roundEven (n d : ℕ) : ℕ :=
  if 2 * (n % d) < d ∨ 2 * (n % d) = d ∧ n / d % 2 = 0 then n / d else n / d + 1

/-- The floating-point number with 53 significant bits nearest to an integer. -/
def natToF64 (n : ℕ) : ℚ := (roundEven n (2 ^ (n.log2 - 52)) * 2 ^ (n.log2 - 52) : ℕ)

/-- The number as a floating-point number of 64 bits. -/
def asF64 : JsonNumber → ℚ
  | posInt value => natToF64 value.toNat
  | negInt value =>
    if value.toInt < 0 then -natToF64 value.toInt.natAbs else natToF64 value.toInt.natAbs
  | float value => value

/-- The number is an integer. -/
def IsInteger : JsonNumber → Prop
  | posInt _ | negInt _ => True
  | float value => value.den = 1

/-- The integer that a number is, however it was read. -/
def intValue : JsonNumber → Option ℤ
  | posInt value => some value.toNat
  | negInt value => some value.toInt
  | float value => if value.den = 1 then some value.num else none

/-- What is read as a signed integer is the integer that the number is. -/
theorem intValue_of_asI64 {n : JsonNumber} {i : ℤ} (h : n.asI64 = some i) :
    n.intValue = some i := by
  cases n with
  | posInt value =>
    rw [asI64] at h
    split_ifs at h
    exact h
  | negInt value => exact h
  | float value => cases h

theorem isInteger_of_asI64 {n : JsonNumber} {i : ℤ} (h : n.asI64 = some i) : n.IsInteger := by
  cases n with
  | posInt | negInt => trivial
  | float => cases h

end JsonNumber

namespace Json

/-- A member of an object. -/
def get (key : String) : Json → Json
  | object members => (members.lookup key).getD null
  | _ => null

/-- The text of a string. -/
def asStr : Json → Option String
  | string text => some text
  | _ => none

/-- The value of a boolean. -/
def asBool : Json → Option Bool
  | bool value => some value
  | _ => none

/-- The number as a signed integer of 64 bits. -/
def asI64 : Json → Option ℤ
  | number value => value.asI64
  | _ => none

/-- The number as a floating-point number. -/
def asF64 : Json → Option ℚ
  | number value => some value.asF64
  | _ => none

variable {v : Json}

theorem asStr_eq_some_iff {text : String} : v.asStr = some text ↔ v = string text := by
  cases v <;> simp [asStr]

theorem exists_of_asF64 {x : ℚ} (h : v.asF64 = some x) : ∃ n, v = number n := by
  cases v with
  | number n => exact ⟨n, rfl⟩
  | null | bool | string | array | object => cases h

theorem exists_of_asI64 {i : ℤ} (h : v.asI64 = some i) : ∃ n, v = number n ∧ n.IsInteger := by
  cases v with
  | number n => exact ⟨n, rfl, JsonNumber.isInteger_of_asI64 h⟩
  | null | bool | string | array | object => cases h

/-- What has a member is an object. -/
theorem exists_of_get_ne_null {key : String} (h : v.get key ≠ null) :
    ∃ members, v = object members ∧ members.lookup key = some (v.get key) := by
  cases v with
  | object members =>
    refine ⟨members, rfl, ?_⟩
    rw [get] at h ⊢
    cases hlookup : members.lookup key with
    | none => exact absurd (by rw [hlookup]; rfl) h
    | some value => rfl
  | null | bool | number | string | array => exact absurd rfl h

end Json

/-! ## Schemas -/

/-- The types of members. -/
inductive JsonType where
  | string
  | number
  | integer
  | boolean
  deriving DecidableEq

/-- A value of the type. -/
def JsonType.Accepts : JsonType → Json → Prop
  | .string, v => ∃ text, v = .string text
  | .number, v => ∃ n, v = .number n
  | .integer, v => ∃ n, v = .number n ∧ n.IsInteger
  | .boolean, v => ∃ value, v = .bool value

/-- The schema of a member: its type, the texts it may be if they are listed, and a description. -/
structure PropertySchema where
  type : JsonType
  enum : Option (List String)
  description : String

/-- The value is of the type and one of those listed. -/
def PropertySchema.Accepts (schema : PropertySchema) (v : Json) : Prop :=
  schema.type.Accepts v ∧ ∀ texts, schema.enum = some texts → ∃ text ∈ texts, v = .string text

theorem PropertySchema.not_accepts_null (schema : PropertySchema) : ¬ schema.Accepts .null := by
  rintro ⟨htype, -⟩
  cases h : schema.type <;> simp [h, JsonType.Accepts] at htype

/-- The schema of an object. -/
structure ObjectSchema where
  properties : List (String × PropertySchema)
  required : List String

namespace ObjectSchema

variable {schema : ObjectSchema} {v : Json}

/-- The value is an object with the required members, whose listed members are accepted. -/
def Conforms (schema : ObjectSchema) (v : Json) : Prop :=
  ∃ members, v = .object members ∧
    (∀ name ∈ schema.required, (members.lookup name).isSome = true) ∧
    ∀ property ∈ schema.properties, ∀ value, members.lookup property.1 = some value →
      property.2.Accepts value

/-- A value conforms that has all listed members, where they are at least one and all that are
required, and whose members are accepted. -/
theorem conforms_of_accepts (hne : schema.properties ≠ [])
    (hrequired : ∀ name ∈ schema.required, ∃ property ∈ schema.properties, property.1 = name)
    (haccepts : ∀ property ∈ schema.properties, property.2.Accepts (v.get property.1)) :
    schema.Conforms v := by
  have hmember : ∀ property ∈ schema.properties, ∃ members, v = .object members ∧
      members.lookup property.1 = some (v.get property.1) := by
    intro property hmem
    refine Json.exists_of_get_ne_null fun hnull => property.2.not_accepts_null ?_
    exact hnull ▸ haccepts property hmem
  obtain ⟨first, hfirst⟩ := List.exists_mem_of_ne_nil _ hne
  obtain ⟨members, rfl, -⟩ := hmember first hfirst
  refine ⟨members, rfl, ?_, ?_⟩
  · intro name hname
    obtain ⟨property, hmem, rfl⟩ := hrequired name hname
    obtain ⟨_, ⟨⟩, hlookup⟩ := hmember property hmem
    rw [hlookup]
    rfl
  · intro property hmem value hvalue
    obtain ⟨_, ⟨⟩, hlookup⟩ := hmember property hmem
    obtain rfl := Option.some.inj (hvalue.symm.trans hlookup)
    exact haccepts property hmem

end ObjectSchema
