import ApiDrift.Json.Value
import ApiDrift.Text.Position
import ApiDrift.Text.Quoted

/-!
# Why a JSON text does not decode

A text is either malformed, or it is well-formed as far as it was read and has the wrong shape.
Each cause of the second kind has one message, which names no position in the text.
-/

namespace ApiDrift.Json

/-- What stands where something else was expected. -/
inductive Found where
  /-- The literal `null`. -/
  | null
  /-- A truth value. -/
  | boolean (value : Bool)
  /-- A number. -/
  | number (value : Number)
  /-- A text. -/
  | string (value : String)
  /-- An array. -/
  | sequence
  /-- An object. -/
  | map

/-- The widths of natural numbers. -/
inductive Width where
  /-- Sixteen bits. -/
  | bits16
  /-- Sixty-four bits. -/
  | bits64
  /-- The width of sizes, sixty-four bits. -/
  | size
  deriving DecidableEq

/-- What was expected. -/
inductive Expected where
  /-- A text. -/
  | string
  /-- A truth value. -/
  | boolean
  /-- An array. -/
  | sequence
  /-- A natural number. -/
  | natural (width : Width)
  /-- A record of the given name. -/
  | record (name : String)

/-- The ways in which a well-formed JSON text has the wrong shape. -/
inductive Mismatch where
  /-- A value of another type stands where one was expected. -/
  | wrongType (found : Found) (expected : Expected)
  /-- An integer is out of range. -/
  | outOfRange (value : Int) (expected : Expected)
  /-- A required field is absent. -/
  | missingField (name : String)
  /-- A declared field stands twice. -/
  | duplicateField (name : String)
  /-- A record in array form ends after `length` of its `count` fields. -/
  | tooShort (length : Nat) (record : String) (count : Nat)
  /-- A record in array form has more items than fields. -/
  | tooLong (length : Nat)
  /-- A text names no type of anomaly. -/
  | unknownAnomalyType (text : String)
  /-- A value that has to be a scalar is an array or an object. -/
  | notScalar (name : String)
  /-- A section is neither an object nor a list of pairs. -/
  | neitherMapNorPairs

/-- Why a JSON text does not decode. -/
inductive Failure where
  /-- The text is no JSON as far as it was read. -/
  | malformed
  /-- The text has the wrong shape. -/
  | mismatch (cause : Mismatch)

/-- The greatest number of a width. -/
def Width.greatest : Width → Nat
  | .bits16 => UInt16.size - 1
  | .bits64 => UInt64.size - 1
  | .size => UInt64.size - 1

/-- The name of what was found. -/
def Found.text : Found → String
  | .null => "null"
  | .boolean value => "boolean `" ++ booleanText value ++ "`"
  | .number (.integer value) => "integer `" ++ (Number.integer value).text ++ "`"
  | .number (.double value) => "floating point `" ++ (Number.double value).text ++ "`"
  | .string value => "string " ++ Text.quoted value
  | .sequence => "sequence"
  | .map => "map"

/-- The name of what was expected. -/
def Expected.text : Expected → String
  | .string => "a string"
  | .boolean => "a boolean"
  | .sequence => "a sequence"
  | .natural .bits16 => "u16"
  | .natural .bits64 => "u64"
  | .natural .size => "usize"
  | .record name => "struct " ++ name

/-- A mismatch in words. -/
def Mismatch.wording : Mismatch → String
  | .wrongType found expected =>
    "invalid type: " ++ found.text ++ ", expected " ++ expected.text
  | .outOfRange value expected =>
    "invalid value: " ++ (Found.number (.integer value)).text ++ ", expected " ++ expected.text
  | .missingField name => "missing field `" ++ name ++ "`"
  | .duplicateField name => "duplicate field `" ++ name ++ "`"
  | .tooShort length record count =>
    "invalid length " ++ toString length ++ ", expected struct " ++ record ++ " with " ++
      toString count ++ (if count = 1 then " element" else " elements")
  | .tooLong length =>
    "invalid length " ++ toString length ++ ", expected fewer elements in array"
  | .unknownAnomalyType text => "unknown anomaly type: " ++ text
  | .notScalar name => "value of '" ++ name ++ "' must be a string, number or boolean"
  | .neitherMapNorPairs => "data did not match any variant of untagged enum MapOrPairs"

/-- The message of a mismatch, without a position that its words may end in. -/
def Mismatch.message (cause : Mismatch) : String :=
  Text.withoutPosition cause.wording

/-- The text that names no type of anomaly is repeated as it is, but for a position at its end. -/
example : ["x", "x at line 3 column 4", "at line 3 column 4"].map (fun text =>
    (Mismatch.unknownAnomalyType text).message) =
    ["unknown anomaly type: x", "unknown anomaly type: x", "unknown anomaly type:"] := by
  decide +kernel

end ApiDrift.Json
