import ApiDrift.Json.Failure
import ApiDrift.Json.Tree

/-!
# Decoders

A decoder reads a tree in the order of the text and stops at the first fault. The same decoder
serves texts and values; the two differ in how deep they may nest and in how they name the items
that an array has beyond the fields of a record.
-/

namespace ApiDrift.Json

/-- Where a tree comes from. -/
inductive Source where
  /-- A text, in which so many more arrays and objects may be entered. -/
  | text (levels : Nat)
  /-- A value, whose nesting is not limited. -/
  | value

/-- The result of decoding. -/
abbrev Decoded (α : Type) := Except Failure α

/-- A way to read a tree as a value of a type. -/
abbrev Decoder (α : Type) := Source → Tree → Decoded α

/-- How many arrays and objects may be entered from the outermost one of a text on. -/
def maxNesting : Nat := 127

/-- The source inside an array or object. -/
def Source.enter : Source → Decoded Source
  | .text 0 => .error .malformed
  | .text (levels + 1) => .ok (.text levels)
  | .value => .ok .value

/-- The end of an array or object, which has to be there. -/
def ensureClosed (closed : Bool) : Decoded Unit :=
  if closed then .ok () else .error .malformed

/-- What a message names a tree. An array or object is named without being read. -/
def Tree.found : Tree → Decoded Found
  | .null => .ok .null
  | .boolean value => .ok (.boolean value)
  | .number (some value) => .ok (.number value)
  | .string (some value) => .ok (.string value)
  | .array _ _ => .ok .sequence
  | .object _ _ => .ok .map
  | .number none | .string none | .broken => .error .malformed

/-- The failure of a tree of another type than the expected one. -/
def Tree.unexpected {α : Type} (tree : Tree) (expected : Expected) : Decoded α :=
  tree.found.bind fun found => .error (.mismatch (.wrongType found expected))

namespace Decoder

/-- A text. -/
def string : Decoder String
  | _, .string (some value) => .ok value
  | _, tree => tree.unexpected .string

/-- A truth value. -/
def boolean : Decoder Bool
  | _, .boolean value => .ok value
  | _, tree => tree.unexpected .boolean

/-- A natural number of a width. -/
def natural (width : Width) : Decoder Nat
  | _, .number (some (.integer value)) =>
    if 0 ≤ value ∧ value.toNat ≤ width.greatest then .ok value.toNat
    else .error (.mismatch (.outOfRange value (.natural width)))
  | _, tree => tree.unexpected (.natural width)

/-- A number of sixteen bits. -/
def word16 : Decoder UInt16 := fun source tree =>
  (natural .bits16 source tree).map UInt16.ofNat

/-- A number of sixty-four bits. -/
def word64 : Decoder UInt64 := fun source tree =>
  (natural .bits64 source tree).map UInt64.ofNat

/-- A size. -/
def size : Decoder UInt64 := fun source tree =>
  (natural .size source tree).map UInt64.ofNat

/-- A list of items. -/
def list {α : Type} (item : Decoder α) : Decoder (List α)
  | source, .array items closed => do
    let inner ← source.enter
    let values ← items.mapM (item inner)
    ensureClosed closed
    return values
  | _, tree => tree.unexpected .sequence

/-- A value for which `null` stands for a default. -/
def orDefault {α : Type} (default : α) (decoder : Decoder α) : Decoder α
  | _, .null => .ok default
  | source, tree => decoder source tree

/-- A value or `null` in its absence. -/
def optional {α : Type} (decoder : Decoder α) : Decoder (Option α)
  | _, .null => .ok none
  | source, tree => (decoder source tree).map some

end Decoder

mutual

/-- The value of a tree, with the fields of objects as they are written. -/
def Tree.toValue (source : Source) : Tree → Decoded Value
  | .array items closed => do
    let inner ← source.enter
    let values ← itemValues inner items []
    ensureClosed closed
    return .array values
  | .object members closed => do
    let inner ← source.enter
    let fields ← memberValues inner members []
    ensureClosed closed
    return .object fields
  | .null => .ok .null
  | .boolean value => .ok (.boolean value)
  | .number (some value) => .ok (.number value)
  | .string (some value) => .ok (.string value)
  | .number none | .string none | .broken => .error .malformed

/-- The values of items behind the reversed values `done`. -/
def itemValues (source : Source) : List Tree → List Value → Decoded (List Value)
  | [], done => .ok done.reverse
  | item :: rest, done =>
    match item.toValue source with
    | .ok value => itemValues source rest (value :: done)
    | .error failure => .error failure

/-- The fields of members behind the reversed fields `done`. -/
def memberValues (source : Source) :
    List (Option String × Tree) → List (String × Value) → Decoded (List (String × Value))
  | [], done => .ok done.reverse
  | (none, _) :: _, _ => .error .malformed
  | (some name, item) :: rest, done =>
    match item.toValue source with
    | .ok value => memberValues source rest ((name, value) :: done)
    | .error failure => .error failure

end

/-- Any value, as it is written. -/
def Decoder.verbatim : Decoder Value := fun source tree => tree.toValue source

/-- What a decoder reads from the octets of a text, behind which only blanks may follow. -/
def Decoder.ofOctets {α : Type} (decoder : Decoder α) (input : Octets) : Decoded α := do
  let document := Document.ofOctets input
  let value ← decoder (.text maxNesting) document.tree
  ensureClosed document.ends
  return value

/-- What a decoder reads from a text. -/
def Decoder.ofText {α : Type} (decoder : Decoder α) (text : String) : Decoded α :=
  decoder.ofOctets text.toUTF8.toList

/-- What a decoder reads from a value. -/
def Decoder.ofValue {α : Type} (decoder : Decoder α) (value : Value) : Decoded α :=
  decoder .value value.toTree

/-- The canonical value of a text. -/
def Value.ofText (text : String) : Decoded Value :=
  (Decoder.verbatim.ofText text).map Value.canonical

end ApiDrift.Json
