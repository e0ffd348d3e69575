import ApiDrift.Dictionary
import ApiDrift.Number.Numeral

/-!
# JSON values

A number is either an integer or a double; the two are different values even when they count the
same. The canonical form of a value keeps, in every object, the last of several fields of one
name and the names in increasing order.
-/

namespace ApiDrift.Json

/-- A JSON number. -/
inductive Number where
  /-- A number written without point and exponent that fits 64 bits. -/
  | integer (value : Int)
  /-- Every other number. -/
  | double (value : Number.Double)
  deriving DecidableEq

/-- A JSON value. -/
inductive Value where
  /-- The literal `null`. -/
  | null
  /-- A truth value. -/
  | boolean (value : Bool)
  /-- A number. -/
  | number (value : Number)
  /-- A text. -/
  | string (value : String)
  /-- Values in order. -/
  | array (items : List Value)
  /-- Named values in order. -/
  | object (fields : List (String × Value))
  deriving Inhabited

/-- The text of a truth value. -/
def booleanText (value : Bool) : String :=
  if value then "true" else "false"

/-- The decimal text of an integer. -/
def integerText (value : Int) : List Char :=
  if value < 0 then '-' :: Number.digitsOf value.natAbs else Number.digitsOf value.natAbs

/-- The text of a number. -/
def Number.text : Number → String
  | .integer value => String.ofList (integerText value)
  | .double value => String.ofList value.text

/-- A field's value is smaller than the list of fields. -/
theorem sizeOf_value_lt {fields : List (String × Value)} {field : String × Value}
    (h : field ∈ fields) : sizeOf field.2 < sizeOf fields := by
  obtain ⟨name, value⟩ := field
  have hmem := List.sizeOf_lt_of_mem h
  simp only [Prod.mk.sizeOf_spec] at hmem ⊢
  omega

/-- An item is smaller than an array that contains it. -/
theorem sizeOf_lt_array {items : List Value} {item : Value} (h : item ∈ items) :
    sizeOf item < sizeOf (Value.array items) := by
  have := List.sizeOf_lt_of_mem h
  simp only [Value.array.sizeOf_spec]
  omega

/-- A field's value is smaller than an object with that field. -/
theorem sizeOf_lt_object {fields : List (String × Value)} {field : String × Value}
    (h : field ∈ fields) : sizeOf field.2 < sizeOf (Value.object fields) := by
  have := sizeOf_value_lt h
  simp only [Value.object.sizeOf_spec]
  omega

/-- The value with the fields of every object in order and without overridden ones. -/
def Value.canonical : Value → Value
  | .array items => .array (items.map fun item => item.canonical)
  | .object fields =>
    .object (Dictionary.ofList (fields.map fun field => (field.1, field.2.canonical))).entries
  | value => value
decreasing_by
  · have := List.sizeOf_lt_of_mem ‹_›
    simp only [array.sizeOf_spec]
    omega
  · have := sizeOf_value_lt ‹_›
    simp only [object.sizeOf_spec]
    omega

/-- A value of an object under a name, if the value is an object with such a field. -/
def Value.field? (value : Value) (name : String) : Option Value :=
  match value with
  | .object fields => fields.lookup name
  | _ => none

/-- A natural number as a JSON number. -/
def Value.natural (n : Nat) : Value :=
  .number (.integer n)

/-- A list of texts as a JSON array. -/
def Value.strings (texts : List String) : Value :=
  .array (texts.map .string)

/-- A value or `null` in its absence. -/
def Value.orNull : Option Value → Value
  | some value => value
  | none => .null

end ApiDrift.Json
