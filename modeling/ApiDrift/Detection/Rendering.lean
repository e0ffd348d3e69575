import ApiDrift.Json.Value

/-!
# Raw texts of body values

The tags look at raw texts, so a value of a body is rendered first. A text stands for itself and
any other scalar for its JSON text; arrays and objects are rendered in the grammar of list
literals. The value `null` counts as absent and has no text.
-/

namespace ApiDrift.Detection

open Json

/-- A character of a quoted text: quotes and backslashes are escaped. -/
def escapeLiteral (c : Char) : List Char :=
  if c = '"' ∨ c = '\\' then ['\\', c] else [c]

/-- A text between double quotes. -/
def quoteLiteral (text : String) : List Char :=
  '"' :: text.toList.flatMap escapeLiteral ++ ['"']

/-- The text of a value inside an array or object. -/
def nestedText : Value → List Char
  | .null => "null".toList
  | .boolean value => (booleanText value).toList
  | .number value => value.text.toList
  | .string value => quoteLiteral value
  | .array items =>
    '[' :: ", ".toList.intercalate (items.map fun item => nestedText item) ++ [']']
  | .object fields =>
    '{' :: ", ".toList.intercalate
      (fields.map fun field => quoteLiteral field.1 ++ '=' :: nestedText field.2) ++ ['}']
decreasing_by
  · have := List.sizeOf_lt_of_mem ‹_›
    simp only [Value.array.sizeOf_spec]
    omega
  · have := sizeOf_value_lt ‹_›
    simp only [Value.object.sizeOf_spec]
    omega

/-- The raw text of a value, which `null` does not have. -/
def rawText? : Value → Option String
  | .null => none
  | .string value => some value
  | value => some (String.ofList (nestedText value))

end ApiDrift.Detection
