import ApiDrift.Model
import ApiDrift.Report
import ApiDrift.Suggestion.Closest
import ApiDrift.Tag

/-!
# Violations of the rules for models

A violation says which model of a batch breaks a rule, at which place and why. Its path, message
and hint follow from that.
-/

namespace ApiDrift

/-- The methods that a model may have. -/
def allowedMethods : List String :=
  ["GET", "POST", "PUT", "DELETE", "PATCH", "HEAD", "OPTIONS"]

/-- A place in a model. -/
inductive ModelPlace where
  /-- The path. -/
  | path
  /-- The method. -/
  | method
  /-- The parameters of a section. -/
  | parameters (sec : Section)
  /-- The name of a parameter. -/
  | name (sec : Section) (index : Nat)
  /-- The types of a parameter. -/
  | types (sec : Section) (index : Nat)
  deriving DecidableEq

/-- A rule that a model breaks. -/
inductive BrokenRule where
  /-- A path is blank. -/
  | pathRequired
  /-- A path is too long. -/
  | pathTooLong (limit : Nat)
  /-- A method is blank. -/
  | methodRequired
  /-- A method is none of the allowed ones. -/
  | unsupportedMethod (method : String)
  /-- A section has too many parameters. -/
  | tooManyParameters (count limit : Nat)
  /-- The name of a parameter is blank. -/
  | nameRequired
  /-- The name of a parameter is too long. -/
  | nameTooLong (limit : Nat)
  /-- A parameter has no types. -/
  | typeRequired
  /-- A parameter has too many types. -/
  | tooManyTypes (count limit : Nat)
  /-- The name of a type is not supported. -/
  | unsupportedType (name : String)
  deriving DecidableEq

/-- A rule broken at a place of a model of a batch. -/
structure Violation where
  /-- The place of the model in the batch. -/
  model : Nat
  /-- The place in the model. -/
  place : ModelPlace
  /-- The rule. -/
  rule : BrokenRule
  deriving DecidableEq

/-- The name of a section in the paths of a report. -/
def Section.pathName : Section → String
  | .queryParam => "query_params"
  | .header => "headers"
  | .body => "body"

/-- The path of an item of a list. -/
def itemPath (list : String) (index : Nat) : String :=
  list ++ "[" ++ toString index ++ "]"

/-- The path of a place inside a model. -/
def ModelPlace.text : ModelPlace → String
  | .path => "path"
  | .method => "method"
  | .parameters sec => sec.pathName
  | .name sec index => itemPath sec.pathName index ++ ".name"
  | .types sec index => itemPath sec.pathName index ++ ".types"

/-- The message of a broken rule. -/
def BrokenRule.message : BrokenRule → String
  | .pathRequired => "path is required"
  | .pathTooLong limit => "path exceeds maximum length of " ++ toString limit
  | .methodRequired => "method is required"
  | .unsupportedMethod method =>
    "unsupported HTTP method '" ++ method ++ "', expected one of " ++
      " ".intercalate allowedMethods
  | .tooManyParameters count limit =>
    "too many parameters: " ++ toString count ++ " (max " ++ toString limit ++ ")"
  | .nameRequired => "name is required"
  | .nameTooLong limit => "name exceeds maximum length of " ++ toString limit
  | .typeRequired => "at least one type is required"
  | .tooManyTypes count limit =>
    "too many types: " ++ toString count ++ " (max " ++ toString limit ++ ")"
  | .unsupportedType name => "type '" ++ name ++ "' is not supported"

/-- The known name that is suggested for a broken rule. -/
def BrokenRule.suggested? : BrokenRule → Option String
  | .unsupportedMethod method => Suggestion.closest? (normalizeMethod method) allowedMethods
  | .unsupportedType name => Suggestion.closest? name (Tag.all.map Tag.name)
  | _ => none

/-- The path of a violation. -/
def Violation.path (violation : Violation) : String :=
  itemPath "models" violation.model ++ "." ++ violation.place.text

/-- The error that reports a violation. -/
def Violation.toError (violation : Violation) : ReportError :=
  ⟨violation.path, violation.rule.message, violation.rule.suggested?.map Suggestion.hint⟩

end ApiDrift
