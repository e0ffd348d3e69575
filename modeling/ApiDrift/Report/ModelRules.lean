import ApiDrift.Report.Violation
import ApiDrift.Settings

/-!
# Rules for models

Every rule is checked for every model of a batch, and every instance of a broken rule is reported:
model by model, the path, the method, and the sections from the body to the query, each with its
parameters in order. Models of one key are allowed, but all except the first get a warning.
-/

namespace ApiDrift

/-- Whether a text has more characters than a limit. -/
def exceeds (text : String) (limit : UInt64) : Bool :=
  limit.toNat < text.length

/-- The sections of a model in the order in which their parameters are reported. -/
def reportedSections : List Section := [.body, .header, .queryParam]

/-- The rules that a text breaks that must not be blank or too long. -/
def brokenByText (text : String) (limit : UInt64) (required tooLong : BrokenRule) :
    List BrokenRule :=
  if !Text.hasText text then [required]
  else if exceeds text limit then [tooLong]
  else []

/-- The rules that the path of a model breaks. -/
def brokenByPath (limits : Limits) (path : String) : List BrokenRule :=
  brokenByText path limits.maxLength .pathRequired (.pathTooLong limits.maxLength.toNat)

/-- The rules that the method of a model breaks. -/
def brokenByMethod (method : String) : List BrokenRule :=
  if !Text.hasText method then [.methodRequired]
  else if allowedMethods.contains (normalizeMethod method) then []
  else [.unsupportedMethod method]

/-- The rules that the name of a parameter breaks. -/
def brokenByName (limits : Limits) (name : String) : List BrokenRule :=
  brokenByText name limits.maxLength .nameRequired (.nameTooLong limits.maxLength.toNat)

/-- The rules that the types of a parameter break. -/
def brokenByTypes (limits : Limits) (types : List String) : List BrokenRule :=
  if types.isEmpty then [.typeRequired]
  else
    (if limits.maxTypes.toNat < types.length then
      [.tooManyTypes types.length limits.maxTypes.toNat] else []) ++
    (types.filter fun name => !Tag.isSupported name).map .unsupportedType

/-- The rules that the number of parameters of a section breaks. -/
def brokenByCount (limits : Limits) (parameters : List Parameter) : List BrokenRule :=
  if limits.maxParameters.toNat < parameters.length then
    [.tooManyParameters parameters.length limits.maxParameters.toNat]
  else []

/-- The broken rules of the parameters of a section, with their places. -/
def brokenInSection (limits : Limits) (sec : Section) (parameters : List Parameter) :
    List (ModelPlace × BrokenRule) :=
  (brokenByCount limits parameters).map (.parameters sec, ·) ++
    parameters.zipIdx.flatMap fun (parameter, index) =>
      (brokenByName limits parameter.name).map (.name sec index, ·) ++
        (brokenByTypes limits parameter.types).map (.types sec index, ·)

/-- The broken rules of a model, with their places. -/
def brokenInModel (limits : Limits) (model : Model) : List (ModelPlace × BrokenRule) :=
  (brokenByPath limits model.path).map (.path, ·) ++
    (brokenByMethod model.method).map (.method, ·) ++
    reportedSections.flatMap fun sec => brokenInSection limits sec (model.parameters sec)

/-- The violations of the models of a batch, of which the first one has the given place. -/
def violationsFrom (limits : Limits) (start : Nat) (models : List Model) : List Violation :=
  (models.zipIdx start).flatMap fun (model, index) =>
    (brokenInModel limits model).map fun (place, rule) => ⟨index, place, rule⟩

/-- The violations of a batch. -/
def violations (limits : Limits) (models : List Model) : List Violation :=
  violationsFrom limits 0 models

/-- The places of the models whose key an earlier model has, each with the first place of the
key. -/
def duplicates (models : List Model) : List (Nat × Nat × EndpointKey) :=
  let keys := models.map Model.key
  keys.zipIdx.filterMap fun (key, index) =>
    let first := keys.idxOf key
    if first < index then some (index, first, key) else none

/-- The warning for a model whose key an earlier model has. -/
def duplicateWarning (index first : Nat) (key : EndpointKey) : ReportWarning :=
  ⟨itemPath "models" index,
    "duplicate of " ++ itemPath "models" first ++ " (" ++ key.text ++
      "), only the first occurrence is kept"⟩

/-- The report on a batch of models. -/
def reportModels (limits : Limits) (models : List Model) : Report :=
  Report.of ((violations limits models).map Violation.toError)
    ((duplicates models).map fun (index, first, key) => duplicateWarning index first key)

end ApiDrift
