import ApiDrift.Anomaly
import ApiDrift.Detection.Rendering
import ApiDrift.Request
import ApiDrift.Tag

/-!
# Deviations of a request from a model

The sections are checked in their order and the parameters of each in the order in which the model
declares them. A required parameter that is not observed is missing, and an observed text that no
allowed type accepts is a mismatch. Nothing that the model does not declare matters.
-/

namespace ApiDrift.Detection

/-- The raw text that a request has for a parameter of a section. -/
def observed? (request : Request) (sec : Section) (name : String) : Option String :=
  match sec with
  | .queryParam => request.queryParams.get? name
  | .header => request.headers.get? name
  | .body => (request.body.get? name).bind rawText?

/-- How a parameter deviates from what is observed of it, if it does. -/
def deviation? (sec : Section) (parameter : Parameter) (observed : Option String) :
    Option Anomaly :=
  match observed with
  | none => if parameter.required then some (.missing sec parameter.name) else none
  | some value =>
    if Tag.acceptsAny parameter.types value then none
    else some (.typeMismatch sec parameter.name value parameter.types)

/-- All deviations of a request from a model. -/
def deviations (request : Request) (model : Model) : List Anomaly :=
  Section.all.flatMap fun sec =>
    (model.parameters sec).filterMap fun parameter =>
      deviation? sec parameter (observed? request sec parameter.name)

end ApiDrift.Detection
