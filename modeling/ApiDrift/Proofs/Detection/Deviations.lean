import ApiDrift.Detection.Deviation
import Mathlib.Data.List.Forall2

/-!
# Exactly the deviations of a request

What is observed of a request is a relation between sections, names and texts, and a declared
parameter deviates when it is required and not observed, or observed with a text that none of its
types accepts. The anomalies of a request stand one by one for the declared parameters that deviate,
in the order of declaration. Requests of which the same is observed where a model declares something
have the same anomalies, whatever else they say.
-/

namespace ApiDrift.Detection

open Json (Value)

/-- The parameters that a model declares, each with its section: those of the query, then the
headers, then the fields of the body. -/
def declarations (model : Model) : List (Section × Parameter) :=
  model.queryParams.map (.queryParam, ·) ++ model.headers.map (.header, ·) ++
    model.body.map (.body, ·)

/-- A request has a text for a name in a section. In the body it is that of a value. -/
def Observes (request : Request) : Section → String → String → Prop
  | .queryParam, name, text => (name, text) ∈ request.queryParams.entries
  | .header, name, text => (name, text) ∈ request.headers.entries
  | .body, name, text => ∃ value, (name, value) ∈ request.body.entries ∧ rawText? value = some text

/-- There are names of types, and no tag of one of these names accepts a text. -/
def Rejects (names : List String) (text : String) : Prop :=
  names ≠ [] ∧ ∀ tag : Tag, tag.name ∈ names → tag.accepts text.toList = false

/-- A declared parameter deviates in a request, and the anomaly has the type of the deviation, with
the section of the parameter, and names what deviates. -/
inductive Deviates (request : Request) : Section × Parameter → Anomaly → Prop
  /-- A required parameter is not observed. -/
  | missing {sec : Section} {parameter : Parameter} {anomaly : Anomaly}
      (required : parameter.required = true)
      (absent : ∀ text, ¬Observes request sec parameter.name text)
      (type : anomaly.type = .missing sec) (named : anomaly.Quotes parameter.name) :
      Deviates request (sec, parameter) anomaly
  /-- What is observed of a parameter has none of its types. -/
  | mismatch {sec : Section} {parameter : Parameter} {text : String} {anomaly : Anomaly}
      (observed : Observes request sec parameter.name text)
      (rejected : Rejects parameter.types text)
      (type : anomaly.type = .typeMismatch sec) (named : anomaly.Quotes parameter.name)
      (shown : anomaly.Quotes text) :
      Deviates request (sec, parameter) anomaly

/-- The same is observed of two requests wherever a model declares a parameter. -/
def SameObservations (model : Model) (first second : Request) : Prop :=
  ∀ sec parameter, (sec, parameter) ∈ declarations model →
    ∀ text, Observes first sec parameter.name text ↔ Observes second sec parameter.name text

/-- What is looked up in a request is what is observed of it. -/
theorem observed?_eq_some_iff {request : Request} {sec : Section} {name text : String} :
    observed? request sec name = some text ↔ Observes request sec name text := by
  cases sec with
  | queryParam => exact Dictionary.get?_eq_some_iff
  | header => exact Dictionary.get?_eq_some_iff
  | body =>
    rw [observed?, Option.bind_eq_some_iff]
    exact exists_congr fun value => and_congr_left fun _ => Dictionary.get?_eq_some_iff

/-- Nothing is looked up where nothing is observed. -/
theorem observed?_eq_none_iff {request : Request} {sec : Section} {name : String} :
    observed? request sec name = none ↔ ∀ text, ¬Observes request sec name text := by
  simp only [Option.eq_none_iff_forall_ne_some, ne_eq, observed?_eq_some_iff]

/-- A text has none of the named types exactly when it is rejected. -/
theorem acceptsAny_eq_false_iff {names : List String} {text : String} :
    Tag.acceptsAny names text = false ↔ Rejects names text := by
  rw [← Bool.not_eq_true, Tag.acceptsAny_iff, not_or, Rejects]
  simp only [not_exists, not_and, Bool.not_eq_true]

/-- What the check of a parameter finds deviates. -/
theorem deviates_of_deviation? {request : Request} {sec : Section} {parameter : Parameter}
    {anomaly : Anomaly}
    (h : deviation? sec parameter (observed? request sec parameter.name) = some anomaly) :
    Deviates request (sec, parameter) anomaly := by
  unfold deviation? at h
  split at h
  · next hnone =>
    split at h
    · next hrequired =>
      obtain rfl := Option.some.inj h
      exact .missing hrequired (observed?_eq_none_iff.mp hnone) Anomaly.type_missing
        Anomaly.quotes_missing
    · cases h
  · next text hsome =>
    split at h
    · cases h
    · next haccepts =>
      obtain rfl := Option.some.inj h
      exact .mismatch (observed?_eq_some_iff.mp hsome)
        (acceptsAny_eq_false_iff.mp (Bool.eq_false_iff.mpr haccepts)) Anomaly.type_typeMismatch
        Anomaly.quotes_typeMismatch.1 Anomaly.quotes_typeMismatch.2

/-- The check of a parameter that deviates finds something. -/
theorem Deviates.isSome_deviation? {request : Request} {declared : Section × Parameter}
    {anomaly : Anomaly} (h : Deviates request declared anomaly) :
    (deviation? declared.1 declared.2 (observed? request declared.1 declared.2.name)).isSome =
      true := by
  cases h with
  | missing hrequired habsent =>
    rw [observed?_eq_none_iff.mpr habsent, deviation?, if_pos hrequired]
    rfl
  | mismatch hobserved hrejected =>
    rw [observed?_eq_some_iff.mpr hobserved, deviation?]
    simp only [acceptsAny_eq_false_iff.mpr hrejected]
    rfl

/-- A parameter deviates exactly when its check finds something. -/
theorem isSome_deviation?_iff {request : Request} {declared : Section × Parameter} :
    (deviation? declared.1 declared.2 (observed? request declared.1 declared.2.name)).isSome =
      true ↔ ∃ anomaly, Deviates request declared anomaly := by
  rw [Option.isSome_iff_exists]
  constructor
  · rintro ⟨anomaly, hfound⟩
    exact ⟨anomaly, deviates_of_deviation? hfound⟩
  · rintro ⟨anomaly, hdeviates⟩
    exact Option.isSome_iff_exists.mp hdeviates.isSome_deviation?

/-- Whether a declared parameter deviates is decided by its check. -/
instance {request : Request} {declared : Section × Parameter} :
    Decidable (∃ anomaly, Deviates request declared anomaly) :=
  decidable_of_iff _ isSome_deviation?_iff

/-- The anomalies of a request are found by one walk over the declared parameters. -/
theorem deviations_eq_filterMap (request : Request) (model : Model) :
    deviations request model = (declarations model).filterMap fun declared =>
      deviation? declared.1 declared.2 (observed? request declared.1 declared.2.name) := by
  simp [deviations, declarations, Section.all, Model.parameters, List.filterMap_append,
    List.filterMap_map]

/-- What a partial function gives stands one by one for the arguments for which it gives
something. -/
theorem forall₂_filterMap {α β : Type} {R : α → β → Prop} {f : α → Option β}
    (h : ∀ a b, f a = some b → R a b) {p : α → Prop} [DecidablePred p]
    (hp : ∀ a, (f a).isSome = true ↔ p a) (items : List α) :
    List.Forall₂ R (items.filter fun a => p a) (items.filterMap f) := by
  induction items with
  | nil => exact .nil
  | cons first rest ih =>
    cases hfirst : f first with
    | none =>
      have hnot : ¬p first := by
        rw [← hp, hfirst]
        exact Bool.false_ne_true
      rw [List.filter_cons_of_neg (by simpa using hnot), List.filterMap_cons_none hfirst]
      exact ih
    | some b =>
      have hpos : p first := (hp first).mp (by rw [hfirst]; rfl)
      rw [List.filter_cons_of_pos (by simpa using hpos), List.filterMap_cons_some hfirst]
      exact .cons (h first b hfirst) ih

/-- The same anomalies are found where the same is observed. -/
theorem SameObservations.deviations_eq {model : Model} {first second : Request}
    (h : SameObservations model first second) :
    deviations first model = deviations second model := by
  rw [deviations_eq_filterMap, deviations_eq_filterMap]
  refine List.filterMap_congr fun ⟨sec, parameter⟩ hdeclared => ?_
  have hsame : observed? first sec parameter.name = observed? second sec parameter.name :=
    Option.ext fun text => by
      rw [observed?_eq_some_iff, observed?_eq_some_iff]
      exact h sec parameter hdeclared text
  rw [hsame]

/-- Of two requests with the same query and headers the same is observed when the fields of their
bodies have the same raw texts. -/
theorem sameObservations_of_body {first second : Request}
    (hquery : first.queryParams = second.queryParams) (hheaders : first.headers = second.headers)
    (hbody : ∀ name, (first.body.get? name).bind rawText? = (second.body.get? name).bind rawText?)
    (model : Model) : SameObservations model first second := by
  intro sec parameter _ text
  rw [← observed?_eq_some_iff, ← observed?_eq_some_iff]
  cases sec with
  | queryParam => rw [observed?, observed?, hquery]
  | header => rw [observed?, observed?, hheaders]
  | body => rw [observed?, observed?, hbody]

end ApiDrift.Detection
