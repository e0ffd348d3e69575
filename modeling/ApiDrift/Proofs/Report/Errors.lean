import ApiDrift.Proofs.Report.Breaches
import Mathlib.Data.List.Forall2

/-!
# What the errors of a report tell

The path of an error gives the place of the model in the batch and the site in the model, its message
says which rule is broken there, and a hint suggests a known name that is near to one that is not
known. The errors of a report stand one by one for the breaches of the batch, in their order, and
each of them tells of its breach. Behind another batch the same errors are reported, with the places
of the models raised.
-/

namespace ApiDrift

/-- The parameters of a section stand in a list of the model. -/
inductive Section.StandsIn : Section → String → Prop
  /-- The list of the parameters of the query. -/
  | queryParam : StandsIn .queryParam "query_params"
  /-- The list of the headers. -/
  | header : StandsIn .header "headers"
  /-- The list of the fields of the body. -/
  | body : StandsIn .body "body"

/-- A site stands at a place of the model. -/
inductive Site.StandsAt : Site → String → Prop
  /-- The path has a place of its own. -/
  | path : StandsAt .path "path"
  /-- The method has a place of its own. -/
  | method : StandsAt .method "method"
  /-- The number of parameters of a section is the one of their list. -/
  | count {sec : Section} {list : String} (hlist : sec.StandsIn list) : StandsAt (.count sec) list
  /-- The name of a parameter is a part of its item in the list. -/
  | name {sec : Section} {list : String} {index : Nat} (hlist : sec.StandsIn list) :
    StandsAt (.name sec index) (list ++ "[" ++ toString index ++ "].name")
  /-- The types of a parameter are a part of its item in the list. -/
  | types {sec : Section} {list : String} {index : Nat} (hlist : sec.StandsIn list) :
    StandsAt (.types sec index) (list ++ "[" ++ toString index ++ "].types")
  /-- A single type has the place of all types of the parameter. -/
  | type {sec : Section} {list : String} {index position : Nat} (hlist : sec.StandsIn list) :
    StandsAt (.type sec index position) (list ++ "[" ++ toString index ++ "].types")

/-- A message says which rule is broken. -/
inductive BrokenRule.Says : BrokenRule → String → Prop
  /-- A path has to be given. -/
  | pathRequired : Says .pathRequired "path is required"
  /-- A path is held to a length. -/
  | pathTooLong {limit : Nat} :
    Says (.pathTooLong limit) ("path exceeds maximum length of " ++ toString limit)
  /-- A method has to be given. -/
  | methodRequired : Says .methodRequired "method is required"
  /-- A method has to be one of seven. -/
  | unsupportedMethod {method : String} :
    Says (.unsupportedMethod method) ("unsupported HTTP method '" ++ method ++
      "', expected one of GET POST PUT DELETE PATCH HEAD OPTIONS")
  /-- A section is held to a number of parameters. -/
  | tooManyParameters {count limit : Nat} :
    Says (.tooManyParameters count limit)
      ("too many parameters: " ++ toString count ++ " (max " ++ toString limit ++ ")")
  /-- The name of a parameter has to be given. -/
  | nameRequired : Says .nameRequired "name is required"
  /-- The name of a parameter is held to a length. -/
  | nameTooLong {limit : Nat} :
    Says (.nameTooLong limit) ("name exceeds maximum length of " ++ toString limit)
  /-- Some type has to be given. -/
  | typeRequired : Says .typeRequired "at least one type is required"
  /-- A parameter is held to a number of types. -/
  | tooManyTypes {count limit : Nat} :
    Says (.tooManyTypes count limit)
      ("too many types: " ++ toString count ++ " (max " ++ toString limit ++ ")")
  /-- A type has to be one that is supported. -/
  | unsupportedType {name : String} :
    Says (.unsupportedType name) ("type '" ++ name ++ "' is not supported")

/-- A known name is the closest one to a name that is not known. -/
inductive BrokenRule.Suggests : BrokenRule → String → Prop
  /-- An allowed method is the closest one. -/
  | method {method known : String}
    (hclosest : Suggestion.closest? (normalizeMethod method) allowedMethods = some known) :
    Suggests (.unsupportedMethod method) known
  /-- The name of a tag is the closest one. -/
  | type {name known : String}
    (hclosest : Suggestion.closest? name (Tag.all.map Tag.name) = some known) :
    Suggests (.unsupportedType name) known

/-- An error tells of a breach. -/
structure ReportError.Tells (error : ReportError) (breach : Breach) : Prop where
  /-- The path gives the place of the model, and the site in the model. -/
  path : ∃ place, breach.site.StandsAt place ∧
    error.path = "models[" ++ toString breach.model ++ "]." ++ place
  /-- The message says which rule is broken. -/
  message : breach.rule.Says error.message
  /-- The hint suggests the known name, if there is one. -/
  suggestion : ∀ hint, error.suggestion = some hint ↔
    ∃ known, breach.rule.Suggests known ∧ hint = "did you mean '" ++ known ++ "'?"

/-- One error is another one with the place of its model raised. -/
def ReportError.RaisedBy (count : Nat) (error raised : ReportError) : Prop :=
  ∃ index place, error.path = "models[" ++ toString index ++ "]." ++ place ∧
    raised = { error with path := "models[" ++ toString (count + index) ++ "]." ++ place }

/-- The parameters of a section are reported in their list. -/
theorem Section.standsIn_pathName (sec : Section) : sec.StandsIn sec.pathName := by
  cases sec with
  | queryParam => exact .queryParam
  | header => exact .header
  | body => exact .body

/-- A site is reported at its place. -/
theorem Site.standsAt_text (site : Site) : site.StandsAt site.place.text := by
  have hitem (sec : Section) (index : Nat) (rest part : String) (h : "]" ++ rest = part) :
      itemPath sec.pathName index ++ rest =
        sec.pathName ++ "[" ++ toString index ++ part := by
    rw [itemPath, String.append_assoc, h]
  cases site with
  | path => exact .path
  | method => exact .method
  | count sec => exact .count sec.standsIn_pathName
  | name sec index =>
    rw [place, ModelPlace.text, hitem sec index ".name" "].name" rfl]
    exact .name sec.standsIn_pathName
  | types sec index =>
    rw [place, ModelPlace.text, hitem sec index ".types" "].types" rfl]
    exact .types sec.standsIn_pathName
  | type sec index position =>
    rw [place, ModelPlace.text, hitem sec index ".types" "].types" rfl]
    exact .type sec.standsIn_pathName

/-- The message of a broken rule says which one it is. -/
theorem BrokenRule.says_message (rule : BrokenRule) : rule.Says rule.message := by
  have hmethods : "', expected one of " ++ " ".intercalate allowedMethods =
      "', expected one of GET POST PUT DELETE PATCH HEAD OPTIONS" := by decide +kernel
  cases rule with
  | unsupportedMethod method =>
    have hmessage : (unsupportedMethod method).message = "unsupported HTTP method '" ++ method ++
        "', expected one of GET POST PUT DELETE PATCH HEAD OPTIONS" :=
      (String.append_assoc ..).trans (congrArg _ hmethods)
    rw [hmessage]
    exact .unsupportedMethod
  | _ => constructor

/-- What is suggested for a broken rule is the closest known name. -/
theorem BrokenRule.suggested?_eq_some_iff {rule : BrokenRule} {known : String} :
    rule.suggested? = some known ↔ rule.Suggests known := by
  constructor
  · intro h
    cases rule with
    | unsupportedMethod method => exact .method h
    | unsupportedType name => exact .type h
    | _ => cases h
  · intro h
    cases h with
    | method hclosest => exact hclosest
    | type hclosest => exact hclosest

/-- The path of a violation gives the place of the model. -/
theorem Violation.path_eq (violation : Violation) :
    violation.path = "models[" ++ toString violation.model ++ "]." ++ violation.place.text := by
  simp [path, itemPath, ← String.toList_inj]

/-- The error that is reported for a breach tells of it. -/
theorem Breach.toError_tells (breach : Breach) : breach.violation.toError.Tells breach where
  path := ⟨_, breach.site.standsAt_text, breach.violation.path_eq⟩
  message := breach.rule.says_message
  suggestion hint := by
    change breach.rule.suggested?.map Suggestion.hint = some hint ↔ _
    rw [Option.map_eq_some_iff]
    exact exists_congr fun known => and_congr BrokenRule.suggested?_eq_some_iff eq_comm

/-- The error for a breach behind other models is the one for the breach with its model raised. -/
theorem Breach.toError_raise (breach : Breach) (count : Nat) :
    ReportError.RaisedBy count breach.violation.toError (breach.raise count).violation.toError := by
  refine ⟨breach.model, breach.site.place.text, breach.violation.path_eq, ?_⟩
  have hpath : (breach.raise count).violation.path = "models[" ++ toString (count + breach.model) ++
      "]." ++ breach.site.place.text := Violation.path_eq _
  rw [← hpath]
  rfl

end ApiDrift
