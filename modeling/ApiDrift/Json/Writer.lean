import ApiDrift.Json.Value
import ApiDrift.Text.Quoted

/-!
# Writing JSON

A value is written without blanks. In a text, quotes, backslashes and controls are escaped.
-/

namespace ApiDrift.Json

/-- A character of a JSON text between quotes. -/
def escapeChar (c : Char) : List Char :=
  if c = '"' then ['\\', '"']
  else if c = '\\' then ['\\', '\\']
  else if c = '\n' then ['\\', 'n']
  else if c = '\r' then ['\\', 'r']
  else if c = '\t' then ['\\', 't']
  else if c.toNat < 0x20 then
    ['\\', 'u', '0', '0'] ++ (if c.toNat < 0x10 then ['0'] else []) ++ Text.hexDigits c.toNat
  else [c]

/-- A text between quotes. -/
def quoteText (text : String) : String :=
  String.ofList ('"' :: text.toList.flatMap escapeChar ++ ['"'])

/-- The output with a value behind it. -/
def Value.write (out : String) : Value → String
  | .null => out ++ "null"
  | .boolean value => out ++ booleanText value
  | .number value => out ++ value.text
  | .string value => out ++ quoteText value
  | .array items =>
    let inner := items.attach.foldl (fun (state : String × Bool) item =>
      ((item.1).write (if state.2 then state.1 ++ "," else state.1), true)) (out ++ "[", false)
    inner.1 ++ "]"
  | .object fields =>
    let inner := fields.attach.foldl (fun (state : String × Bool) field =>
      ((field.1).2.write
        ((if state.2 then state.1 ++ "," else state.1) ++ quoteText (field.1).1 ++ ":"), true))
      (out ++ "\x7b", false)
    inner.1 ++ "\x7d"
termination_by value => sizeOf value
decreasing_by
  · have := List.sizeOf_lt_of_mem item.2
    simp only [array.sizeOf_spec]
    omega
  · have := sizeOf_value_lt field.2
    simp only [object.sizeOf_spec]
    omega

/-- The text of a value. -/
def Value.text (value : Value) : String :=
  value.write ""

end ApiDrift.Json
