import ApiDrift.Json.Record
import ApiDrift.Request

/-!
# Observed requests in JSON

A section is written as an object or as a list of pairs of a name and a value, and a later binding
of a name replaces an earlier one. In the query and the headers, scalars stand for their texts,
`null` for no value at all, and arrays and objects are refused.
-/

namespace ApiDrift.Wire

open Json

/-- A binding of a section that is written as a list of pairs. -/
def pair : Decoder (String × Value) :=
  .record "Binding"
    (.cons (.required "name" .string) (.cons (.required "value" .verbatim) .done))
    fun (name, value, ()) => (name, value)

/-- The bindings of a section in the order in which they are written. -/
def bindings (written : Value) : Except Mismatch (List (String × Value)) :=
  match written with
  | .null => .ok []
  | .object fields => .ok fields
  | .array items =>
    (items.mapM fun item => pair.ofValue item).mapError fun _ => .neitherMapNorPairs
  | _ => .error .neitherMapNorPairs

/-- The value of a binding as a section keeps it. A text may write fields of objects in any order
and several times. -/
def kept (source : Source) (value : Value) : Value :=
  match source with
  | .text _ => value.canonical
  | .value => value

/-- A section of values. It is read to its end before its shape is looked at. -/
def valueSection : Decoder (Dictionary Value) := fun source tree => do
  let written ← tree.toValue source
  let bound ← (bindings written).mapError .mismatch
  return Dictionary.ofList (bound.map fun (name, value) => (name, kept source value))

/-- The text of a scalar, none for `null`. -/
def scalarText? (name : String) : Value → Except Mismatch (Option String)
  | .null => .ok none
  | .string value => .ok (some value)
  | .boolean value => .ok (some (booleanText value))
  | .number value => .ok (some value.text)
  | .array _ | .object _ => .error (.notScalar name)

/-- The texts of the scalars under their names. -/
def scalarTexts (entries : List (String × Value)) :
    Except Mismatch (List (String × String)) := do
  let texts ← entries.mapM fun entry => do
    let text? ← scalarText? entry.1 entry.2
    return text?.map fun text => (entry.1, text)
  return texts.filterMap id

/-- A section of texts. -/
def textSection : Decoder (Dictionary String) := fun source tree => do
  let values ← valueSection source tree
  let texts ← (scalarTexts values.entries).mapError .mismatch
  return Dictionary.ofList texts

/-- A field that holds a section and may be missing. -/
def sectionField {α : Type} (name : String) (decoder : Decoder (Dictionary α)) :
    RecordField (Dictionary α) :=
  ⟨name, decoder, some Dictionary.empty, some Dictionary.empty⟩

/-- A request is read from its fields. -/
def request : Decoder Request :=
  .record "DetectionRequest"
    (.cons (.defaulted "method" "" .string)
      (.cons (.defaulted "path" "" .string)
        (.cons (sectionField "query_params" textSection)
          (.cons (sectionField "headers" textSection)
            (.cons (sectionField "body" valueSection) .done)))))
    fun (method, path, queryParams, headers, body, ()) =>
      { method, path, queryParams, headers, body }

/-- The JSON value of a section of texts. -/
def ofTexts (texts : Dictionary String) : Value :=
  .object (texts.entries.map fun (name, text) => (name, .string text))

/-- The JSON value of a request. -/
def ofRequest (request : Request) : Value :=
  .object
    [("method", .string request.method), ("path", .string request.path),
      ("query_params", ofTexts request.queryParams), ("headers", ofTexts request.headers),
      ("body", .object request.body.entries)]

end ApiDrift.Wire
