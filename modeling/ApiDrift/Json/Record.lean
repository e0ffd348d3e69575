import ApiDrift.Json.Decoder

/-!
# Decoding records

A record is written as an object or as an array of its fields in the order of their declaration.
In an object, undeclared members are passed over and a declared one may stand once. Each field
says what it is when it is absent from an object and when an array ends before it.
-/

namespace ApiDrift.Json

/-- A declared field of a record. -/
structure RecordField (α : Type) where
  /-- The name of its member in an object. -/
  name : String
  /-- How its value is read. -/
  decoder : Decoder α
  /-- What it is when an object lacks it, unless that is a failure. -/
  whenMissing : Option α
  /-- What it is when an array ends before it, unless that is a failure. -/
  whenShort : Option α

/-- A field that has to be there. -/
def RecordField.required {α : Type} (name : String) (decoder : Decoder α) : RecordField α :=
  ⟨name, decoder, none, none⟩

/-- A field for which both `null` and absence mean a default. -/
def RecordField.defaulted {α : Type} (name : String) (default : α) (decoder : Decoder α) :
    RecordField α :=
  ⟨name, decoder.orDefault default, some default, some default⟩

/-- A field that may be missing from an object or be `null`. -/
def RecordField.optional {α : Type} (name : String) (decoder : Decoder α) :
    RecordField (Option α) :=
  ⟨name, decoder.optional, some none, none⟩

/-- The fields of a record in the order of their declaration. The first type is that of a draft,
in which some fields have a value, and the second one that of the values of all fields. -/
inductive RecordFields : Type → Type → Type 1 where
  /-- No field. -/
  | done : RecordFields Unit Unit
  /-- A field and those behind it. -/
  | cons {α δ τ : Type} (field : RecordField α) (rest : RecordFields δ τ) :
    RecordFields (Option α × δ) (α × τ)

namespace RecordFields

/-- The draft before any field was read. -/
def start : {δ τ : Type} → RecordFields δ τ → δ
  | _, _, .done => ()
  | _, _, .cons _ rest => (none, rest.start)

/-- How many fields a record has. -/
def count : {δ τ : Type} → RecordFields δ τ → Nat
  | _, _, .done => 0
  | _, _, .cons _ rest => rest.count + 1

/-- The draft with the member of the given name, if a field of that name is declared. -/
def put (source : Source) (name : String) (tree : Tree) :
    {δ τ : Type} → RecordFields δ τ → δ → Decoded (Option δ)
  | _, _, .done, _ => .ok none
  | _, _, .cons field rest, (slot, others) =>
    if field.name = name then
      match slot with
      | some _ => .error (.mismatch (.duplicateField name))
      | none => (field.decoder source tree).map fun value => some (some value, others)
    else
      (rest.put source name tree others).map fun draft? => draft?.map fun draft => (slot, draft)

/-- The draft with one more member of an object. -/
def putMember {δ τ : Type} (fields : RecordFields δ τ) (source : Source) (draft : δ) :
    Option String × Tree → Decoded δ
  | (none, _) => .error .malformed
  | (some name, tree) => do
    match ← fields.put source name tree draft with
    | some draft => return draft
    | none =>
      ensureClosed tree.isWhole
      return draft

/-- The values of a draft. The first field without a value in the order of declaration is the one
that is missed. -/
def finish : {δ τ : Type} → RecordFields δ τ → δ → Except Mismatch τ
  | _, _, .done, _ => .ok ()
  | _, _, .cons field rest, (slot, others) => do
    let value ← match slot.or field.whenMissing with
      | some value => .ok value
      | none => .error (.missingField field.name)
    let values ← rest.finish others
    return (value, values)

/-- The values of fields that an array holds in order, and the items behind them. The record's
name, the number of its fields and the number of those read so far serve the message. -/
def ofItems (source : Source) (record : String) (total : Nat) :
    {δ τ : Type} → RecordFields δ τ → (index : Nat) → (items : List Tree) → (closed : Bool) →
      Decoded (τ × List Tree)
  | _, _, .done, _, items, _ => .ok ((), items)
  | _, _, .cons field rest, index, item :: items, closed => do
    let value ← field.decoder source item
    let (values, others) ← rest.ofItems source record total (index + 1) items closed
    return ((value, values), others)
  | _, _, .cons field rest, index, [], closed => do
    ensureClosed closed
    let value ← match field.whenShort with
      | some value => .ok value
      | none => .error (.mismatch (.tooShort index record total))
    let (values, others) ← rest.ofItems source record total (index + 1) [] closed
    return ((value, values), others)

end RecordFields

/-- The end of a record in array form, behind which no items may follow. -/
def ensureNoItems (source : Source) (total : Nat) (others : List Tree) (closed : Bool) :
    Decoded Unit :=
  match source, others with
  | _, [] => ensureClosed closed
  | .text _, _ :: _ => .error .malformed
  | .value, _ :: _ => .error (.mismatch (.tooLong total))

/-- A record of the given name and fields. -/
def Decoder.record {δ τ α : Type} (name : String) (fields : RecordFields δ τ) (build : τ → α) :
    Decoder α
  | source, .object members closed => do
    let inner ← source.enter
    let draft ← members.foldlM (fields.putMember inner) fields.start
    ensureClosed closed
    let values ← (fields.finish draft).mapError .mismatch
    return build values
  | source, .array items closed => do
    let inner ← source.enter
    let (values, others) ← fields.ofItems inner name fields.count 0 items closed
    ensureNoItems source items.length others closed
    return build values
  | _, tree => tree.unexpected (.record name)

end ApiDrift.Json
