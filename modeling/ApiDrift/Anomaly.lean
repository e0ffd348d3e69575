import ApiDrift.Section

/-!
# Anomalies

An anomaly is a deviation of a request from what was learned: an endpoint that is not known, a
required parameter that is missing from a section, or a value of none of the allowed types.
-/

namespace ApiDrift

/-- The types of anomalies. -/
inductive AnomalyType where
  /-- The endpoint is not known. -/
  | unknownEndpoint
  /-- A required parameter is missing. -/
  | missing (sec : Section)
  /-- A value has none of the allowed types. -/
  | typeMismatch (sec : Section)
  deriving DecidableEq, Repr

namespace AnomalyType

/-- All types of anomalies. -/
def all : List AnomalyType :=
  .unknownEndpoint :: Section.all.map .missing ++ Section.all.map .typeMismatch

/-- The text of a type. -/
def text : AnomalyType → String
  | .unknownEndpoint => "UNKNOWN_ENDPOINT"
  | .missing sec => "MISSING_" ++ sec.name
  | .typeMismatch sec => "TYPE_MISMATCH_" ++ sec.name

/-- The section of a type that has one. -/
def section? : AnomalyType → Option Section
  | .unknownEndpoint => none
  | .missing sec | .typeMismatch sec => some sec

/-- The type of a text. -/
def ofText? (text : String) : Option AnomalyType :=
  all.find? fun type => type.text == text

/-- The message for a text that no type has. -/
def unknownMessage (text : String) : String :=
  "unknown anomaly type: " ++ text

/-- A type is found under its text. -/
@[simp] theorem ofText?_text (type : AnomalyType) : ofText? type.text = some type := by
  cases type with
  | unknownEndpoint => decide +kernel
  | missing sec => cases sec <;> decide +kernel
  | typeMismatch sec => cases sec <;> decide +kernel

end AnomalyType

/-- A deviation of a request from what was learned. -/
structure Anomaly where
  /-- The type of the deviation. -/
  type : AnomalyType
  /-- What deviates, in words. -/
  description : String
  deriving DecidableEq

namespace Anomaly

/-- The endpoint of a request is not known. -/
def unknownEndpoint : Anomaly :=
  ⟨.unknownEndpoint, "Endpoint not found in learned models"⟩

/-- A required parameter is missing. -/
def missing (sec : Section) (name : String) : Anomaly :=
  ⟨.missing sec, "Required field '" ++ name ++ "' is missing in " ++ sec.name⟩

/-- A value has none of the allowed types. -/
def typeMismatch (sec : Section) (name value : String) (allowed : List String) : Anomaly :=
  ⟨.typeMismatch sec,
    sec.name ++ " parameter '" ++ name ++ "' has value '" ++ value ++
      "' which does not match any allowed types: [" ++ ", ".intercalate allowed ++ "]"⟩

/-- The description of an anomaly has a text in it between quotation marks. -/
def Quotes (anomaly : Anomaly) (text : String) : Prop :=
  ∃ before after, anomaly.description = before ++ ("'" ++ text ++ "'") ++ after

variable {sec : Section} {name value : String} {allowed : List String}

/-- A missing parameter is one of its section. -/
@[simp] theorem type_missing : (missing sec name).type = .missing sec := rfl

/-- A mismatch is one of the section of the parameter. -/
@[simp] theorem type_typeMismatch :
    (typeMismatch sec name value allowed).type = .typeMismatch sec := rfl

/-- A missing parameter is named. -/
theorem quotes_missing : (missing sec name).Quotes name := by
  refine ⟨"Required field ", " is missing in " ++ sec.name, ?_⟩
  simp [missing, ← String.toList_inj]

/-- A parameter with a mismatch is named, and so is its value. -/
theorem quotes_typeMismatch :
    (typeMismatch sec name value allowed).Quotes name ∧
      (typeMismatch sec name value allowed).Quotes value := by
  constructor
  · refine ⟨sec.name ++ " parameter ", " has value '" ++ value ++
      "' which does not match any allowed types: [" ++ ", ".intercalate allowed ++ "]", ?_⟩
    simp [typeMismatch, ← String.toList_inj]
  · refine ⟨sec.name ++ " parameter '" ++ name ++ "' has value ",
      " which does not match any allowed types: [" ++ ", ".intercalate allowed ++ "]", ?_⟩
    simp [typeMismatch, ← String.toList_inj]

end Anomaly

end ApiDrift
