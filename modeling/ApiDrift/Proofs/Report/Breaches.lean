import ApiDrift.Proofs.Report.Accepted

/-!
# What the report on a batch says

A breach is one instance of a broken rule. Its site is finer than the place that an error names: two
types of one parameter are two sites and one place. Sites are ranked in the order of the report,
and a breach is ranked by its model first. The errors of a report are those of the breaches, one for
each and in the order of the ranks, and a batch put behind another one only raises the models of its
breaches.
-/

namespace ApiDrift

/-- Where a model breaks a rule, down to a single type of a parameter. -/
inductive Site where
  /-- The path. -/
  | path
  /-- The method. -/
  | method
  /-- The number of parameters of a section. -/
  | count (sec : Section)
  /-- The name of a parameter. -/
  | name (sec : Section) (index : Nat)
  /-- The number of types of a parameter. -/
  | types (sec : Section) (index : Nat)
  /-- One type of a parameter. -/
  | type (sec : Section) (index position : Nat)
  deriving DecidableEq

/-- The place of a section in a report. -/
def Section.rank : Section → Nat
  | .body => 0
  | .header => 1
  | .queryParam => 2

/-- The rank of a site. Ranks are compared like words, so a section comes before its parameters. -/
def Site.rank : Site → List Nat
  | .path => [0]
  | .method => [1]
  | .count sec => [2, sec.rank]
  | .name sec index => [2, sec.rank, index, 0]
  | .types sec index => [2, sec.rank, index, 1]
  | .type sec index position => [2, sec.rank, index, 1, position]

/-- The place that an error names for a site. -/
def Site.place : Site → ModelPlace
  | .path => .path
  | .method => .method
  | .count sec => .parameters sec
  | .name sec index => .name sec index
  | .types sec index => .types sec index
  | .type sec index _ => .types sec index

/-- A model breaks a rule at a site. A blank text breaks no other rule, and neither does an empty
list of types. -/
inductive Model.Breaks (limits : Limits) (model : Model) : Site → BrokenRule → Prop
  /-- The path is blank. -/
  | pathRequired (hblank : Text.hasText model.path = false) :
    Breaks limits model .path .pathRequired
  /-- The path is too long. -/
  | pathTooLong (htext : Text.hasText model.path = true)
    (hlong : limits.maxLength.toNat < model.path.length) :
    Breaks limits model .path (.pathTooLong limits.maxLength.toNat)
  /-- The method is blank. -/
  | methodRequired (hblank : Text.hasText model.method = false) :
    Breaks limits model .method .methodRequired
  /-- The method is none of the allowed ones. -/
  | unsupportedMethod (htext : Text.hasText model.method = true)
    (hother : normalizeMethod model.method ∉ allowedMethods) :
    Breaks limits model .method (.unsupportedMethod model.method)
  /-- A section has too many parameters. -/
  | tooManyParameters (sec : Section)
    (hmany : limits.maxParameters.toNat < (model.parameters sec).length) :
    Breaks limits model (.count sec)
      (.tooManyParameters (model.parameters sec).length limits.maxParameters.toNat)
  /-- The name of a parameter is blank. -/
  | nameRequired {sec : Section} {index : Nat} {parameter : Parameter}
    (hparameter : (model.parameters sec)[index]? = some parameter)
    (hblank : Text.hasText parameter.name = false) :
    Breaks limits model (.name sec index) .nameRequired
  /-- The name of a parameter is too long. -/
  | nameTooLong {sec : Section} {index : Nat} {parameter : Parameter}
    (hparameter : (model.parameters sec)[index]? = some parameter)
    (htext : Text.hasText parameter.name = true)
    (hlong : limits.maxLength.toNat < parameter.name.length) :
    Breaks limits model (.name sec index) (.nameTooLong limits.maxLength.toNat)
  /-- A parameter has no types. -/
  | typeRequired {sec : Section} {index : Nat} {parameter : Parameter}
    (hparameter : (model.parameters sec)[index]? = some parameter)
    (hempty : parameter.types = []) :
    Breaks limits model (.types sec index) .typeRequired
  /-- A parameter has too many types. -/
  | tooManyTypes {sec : Section} {index : Nat} {parameter : Parameter}
    (hparameter : (model.parameters sec)[index]? = some parameter)
    (htyped : parameter.types ≠ [])
    (hmany : limits.maxTypes.toNat < parameter.types.length) :
    Breaks limits model (.types sec index)
      (.tooManyTypes parameter.types.length limits.maxTypes.toNat)
  /-- A type of a parameter is not supported. -/
  | unsupportedType {sec : Section} {index position : Nat} {parameter : Parameter} {name : String}
    (hparameter : (model.parameters sec)[index]? = some parameter)
    (hname : parameter.types[position]? = some name)
    (hother : Tag.isSupported name = false) :
    Breaks limits model (.type sec index position) (.unsupportedType name)

/-! ### The breaches in the order of the report -/

/-- A rule broken at a site. -/
abbrev Site.Fault := Site × BrokenRule

/-- The faults of the types of a parameter. -/
def faultsOfTypes (limits : Limits) (sec : Section) (index : Nat) (types : List String) :
    List Site.Fault :=
  if types.isEmpty then [(.types sec index, .typeRequired)]
  else
    (if limits.maxTypes.toNat < types.length then
      [(.types sec index, .tooManyTypes types.length limits.maxTypes.toNat)] else []) ++
    (types.zipIdx.filter fun entry => !Tag.isSupported entry.1).map fun entry =>
      (.type sec index entry.2, .unsupportedType entry.1)

/-- The faults of a parameter. -/
def faultsOfParameter (limits : Limits) (sec : Section) (index : Nat) (parameter : Parameter) :
    List Site.Fault :=
  (brokenByName limits parameter.name).map (.name sec index, ·) ++
    faultsOfTypes limits sec index parameter.types

/-- The faults of a section. -/
def faultsOfSection (limits : Limits) (sec : Section) (parameters : List Parameter) :
    List Site.Fault :=
  (brokenByCount limits parameters).map (.count sec, ·) ++
    parameters.zipIdx.flatMap fun entry => faultsOfParameter limits sec entry.2 entry.1

/-- The faults of a model. -/
def faultsOfModel (limits : Limits) (model : Model) : List Site.Fault :=
  (brokenByPath limits model.path).map (.path, ·) ++
    (brokenByMethod model.method).map (.method, ·) ++
    reportedSections.flatMap fun sec => faultsOfSection limits sec (model.parameters sec)

/-- One instance of a broken rule in a batch. -/
structure Breach where
  /-- The place of the model in the batch. -/
  model : Nat
  /-- The site in the model. -/
  site : Site
  /-- The rule. -/
  rule : BrokenRule
  deriving DecidableEq

/-- The rank of a breach, in which the model comes first. -/
def Breach.rank (breach : Breach) : List Nat :=
  breach.model :: breach.site.rank

/-- What the report says of a breach. -/
def Breach.violation (breach : Breach) : Violation :=
  ⟨breach.model, breach.site.place, breach.rule⟩

/-- A breach of a batch that stands behind a number of models. -/
def Breach.raise (count : Nat) (breach : Breach) : Breach :=
  { breach with model := count + breach.model }

/-- The breaches of a batch. -/
def breaches (limits : Limits) (models : List Model) : List Breach :=
  models.zipIdx.flatMap fun entry =>
    (faultsOfModel limits entry.1).map fun fault => ⟨entry.2, fault.1, fault.2⟩

/-! ### Each breach is reported -/

/-- The types of a parameter are reported fault by fault. -/
theorem map_faultsOfTypes (limits : Limits) (sec : Section) (index : Nat) (types : List String) :
    (faultsOfTypes limits sec index types).map (Prod.map Site.place id) =
      (brokenByTypes limits types).map (.types sec index, ·) := by
  have hnames : (types.zipIdx.filter fun entry => !Tag.isSupported entry.1).map Prod.fst =
      types.filter fun name => !Tag.isSupported name :=
    calc (types.zipIdx.filter fun entry => !Tag.isSupported entry.1).map Prod.fst
      _ = (types.zipIdx.map Prod.fst).filter fun name => !Tag.isSupported name := by
        rw [List.filter_map]
        rfl
      _ = types.filter fun name => !Tag.isSupported name := by rw [List.zipIdx_map_fst]
  unfold faultsOfTypes brokenByTypes
  split
  · rfl
  · rw [List.map_append, List.map_append, ← hnames, List.map_map, List.map_map, List.map_map]
    congr 1
    split <;> rfl

/-- A section is reported fault by fault. -/
theorem map_faultsOfSection (limits : Limits) (sec : Section) (parameters : List Parameter) :
    (faultsOfSection limits sec parameters).map (Prod.map Site.place id) =
      brokenInSection limits sec parameters := by
  unfold faultsOfSection brokenInSection faultsOfParameter
  simp only [List.map_append, List.map_map, List.map_flatMap, map_faultsOfTypes]
  rfl

/-- A model is reported fault by fault. -/
theorem map_faultsOfModel (limits : Limits) (model : Model) :
    (faultsOfModel limits model).map (Prod.map Site.place id) = brokenInModel limits model := by
  unfold faultsOfModel brokenInModel
  simp only [List.map_append, List.map_map, List.map_flatMap, map_faultsOfSection]
  rfl

/-- A batch is reported breach by breach. -/
theorem map_breaches (limits : Limits) (models : List Model) :
    (breaches limits models).map Breach.violation = violations limits models := by
  unfold breaches violations violationsFrom
  simp only [← map_faultsOfModel, List.map_flatMap, List.map_map]
  rfl

/-- The errors of a report are those of the breaches. -/
theorem reportModels_errors (limits : Limits) (models : List Model) :
    (reportModels limits models).errors =
      (breaches limits models).map fun breach => breach.violation.toError := by
  unfold reportModels Report.of
  rw [← map_breaches, List.map_map]
  rfl

/-! ### Nothing else is reported -/

/-- A text breaks the one rule when it is blank and the other one when it is too long. -/
theorem mem_brokenByText {text : String} {limit : UInt64} {required tooLong rule : BrokenRule} :
    rule ∈ brokenByText text limit required tooLong ↔
      (Text.hasText text = false ∧ rule = required) ∨
        (Text.hasText text = true ∧ limit.toNat < text.length ∧ rule = tooLong) := by
  unfold brokenByText exceeds
  cases htext : Text.hasText text
  · simp
  · by_cases hlong : limit.toNat < text.length <;> simp [hlong]

/-- A method breaks a rule when it is blank or none of the allowed ones. -/
theorem mem_brokenByMethod {method : String} {rule : BrokenRule} :
    rule ∈ brokenByMethod method ↔
      (Text.hasText method = false ∧ rule = .methodRequired) ∨
        (Text.hasText method = true ∧ normalizeMethod method ∉ allowedMethods ∧
          rule = .unsupportedMethod method) := by
  unfold brokenByMethod
  cases htext : Text.hasText method
  · simp
  · by_cases hallowed : normalizeMethod method ∈ allowedMethods <;> simp [hallowed]

/-- The number of parameters breaks a rule when it is too large. -/
theorem mem_brokenByCount {limits : Limits} {parameters : List Parameter} {rule : BrokenRule} :
    rule ∈ brokenByCount limits parameters ↔
      limits.maxParameters.toNat < parameters.length ∧
        rule = .tooManyParameters parameters.length limits.maxParameters.toNat := by
  unfold brokenByCount
  by_cases hmany : limits.maxParameters.toNat < parameters.length <;> simp [hmany]

/-- The faults of types are that there are none, that there are too many, and each one that is not
supported. -/
theorem mem_faultsOfTypes {limits : Limits} {sec : Section} {index : Nat} {types : List String}
    {fault : Site.Fault} :
    fault ∈ faultsOfTypes limits sec index types ↔
      (types = [] ∧ fault = (.types sec index, .typeRequired)) ∨
        (types ≠ [] ∧ limits.maxTypes.toNat < types.length ∧
          fault = (.types sec index, .tooManyTypes types.length limits.maxTypes.toNat)) ∨
        ∃ position name, types[position]? = some name ∧ Tag.isSupported name = false ∧
          fault = (.type sec index position, .unsupportedType name) := by
  unfold faultsOfTypes
  cases types with
  | nil => simp
  | cons first rest =>
    rw [if_neg (by simp), List.mem_append, List.mem_map]
    refine Iff.trans (or_congr ?_ ?_) (or_iff_right (by simp)).symm
    · by_cases hmany : limits.maxTypes.toNat < (first :: rest).length
      · rw [if_pos hmany, List.mem_singleton]
        exact ⟨fun hfault => ⟨List.cons_ne_nil first rest, hmany, hfault⟩, fun h => h.2.2⟩
      · rw [if_neg hmany]
        exact ⟨fun hfault => absurd hfault List.not_mem_nil, fun h => absurd h.2.1 hmany⟩
    · constructor
      · rintro ⟨⟨name, position⟩, hentry, rfl⟩
        obtain ⟨hname, hother⟩ := List.mem_filter.mp hentry
        exact ⟨position, name, List.mk_mem_zipIdx_iff_getElem?.mp hname, by simpa using hother, rfl⟩
      · rintro ⟨position, name, hname, hother, rfl⟩
        exact ⟨(name, position), List.mem_filter.mpr
          ⟨List.mk_mem_zipIdx_iff_getElem?.mpr hname, by simpa using hother⟩, rfl⟩

/-- The faults of a section are that it has too many parameters and those of its parameters. -/
theorem mem_faultsOfSection {limits : Limits} {sec : Section} {parameters : List Parameter}
    {fault : Site.Fault} :
    fault ∈ faultsOfSection limits sec parameters ↔
      (∃ rule ∈ brokenByCount limits parameters, fault = (.count sec, rule)) ∨
        ∃ index parameter, parameters[index]? = some parameter ∧
          ((∃ rule ∈ brokenByName limits parameter.name, fault = (.name sec index, rule)) ∨
            fault ∈ faultsOfTypes limits sec index parameter.types) := by
  unfold faultsOfSection faultsOfParameter
  simp only [List.mem_append, List.mem_map, List.mem_flatMap, Prod.exists,
    List.mk_mem_zipIdx_iff_getElem?, eq_comm]
  rw [exists_comm]

/-- The faults of a model are the rules that it breaks. -/
theorem mem_faultsOfModel {limits : Limits} {model : Model} {site : Site} {rule : BrokenRule} :
    (site, rule) ∈ faultsOfModel limits model ↔ model.Breaks limits site rule := by
  unfold faultsOfModel
  simp only [List.mem_append, List.mem_map, List.mem_flatMap, mem_faultsOfSection]
  constructor
  · rintro ((⟨_, hrule, hfault⟩ | ⟨_, hrule, hfault⟩) | ⟨sec, _, hsection⟩)
    · cases hfault
      obtain ⟨hblank, rfl⟩ | ⟨htext, hlong, rfl⟩ := mem_brokenByText.mp hrule
      · exact .pathRequired hblank
      · exact .pathTooLong htext hlong
    · cases hfault
      obtain ⟨hblank, rfl⟩ | ⟨htext, hother, rfl⟩ := mem_brokenByMethod.mp hrule
      · exact .methodRequired hblank
      · exact .unsupportedMethod htext hother
    · obtain ⟨_, hrule, hfault⟩ | ⟨index, parameter, hparameter, ⟨_, hrule, hfault⟩ | htypes⟩ :=
        hsection
      · cases hfault
        obtain ⟨hmany, rfl⟩ := mem_brokenByCount.mp hrule
        exact .tooManyParameters sec hmany
      · cases hfault
        obtain ⟨hblank, rfl⟩ | ⟨htext, hlong, rfl⟩ := mem_brokenByText.mp hrule
        · exact .nameRequired hparameter hblank
        · exact .nameTooLong hparameter htext hlong
      · obtain ⟨hempty, hfault⟩ | ⟨htyped, hmany, hfault⟩ | ⟨_, _, hname, hother, hfault⟩ :=
          mem_faultsOfTypes.mp htypes
        · cases hfault
          exact .typeRequired hparameter hempty
        · cases hfault
          exact .tooManyTypes hparameter htyped hmany
        · cases hfault
          exact .unsupportedType hparameter hname hother
  · intro h
    cases h with
    | pathRequired hblank =>
      exact .inl (.inl ⟨_, mem_brokenByText.mpr (.inl ⟨hblank, rfl⟩), rfl⟩)
    | pathTooLong htext hlong =>
      exact .inl (.inl ⟨_, mem_brokenByText.mpr (.inr ⟨htext, hlong, rfl⟩), rfl⟩)
    | methodRequired hblank =>
      exact .inl (.inr ⟨_, mem_brokenByMethod.mpr (.inl ⟨hblank, rfl⟩), rfl⟩)
    | unsupportedMethod htext hother =>
      exact .inl (.inr ⟨_, mem_brokenByMethod.mpr (.inr ⟨htext, hother, rfl⟩), rfl⟩)
    | tooManyParameters sec hmany =>
      exact .inr ⟨sec, mem_reportedSections sec,
        .inl ⟨_, mem_brokenByCount.mpr ⟨hmany, rfl⟩, rfl⟩⟩
    | nameRequired hparameter hblank =>
      exact .inr ⟨_, mem_reportedSections _, .inr ⟨_, _, hparameter,
        .inl ⟨_, mem_brokenByText.mpr (.inl ⟨hblank, rfl⟩), rfl⟩⟩⟩
    | nameTooLong hparameter htext hlong =>
      exact .inr ⟨_, mem_reportedSections _, .inr ⟨_, _, hparameter,
        .inl ⟨_, mem_brokenByText.mpr (.inr ⟨htext, hlong, rfl⟩), rfl⟩⟩⟩
    | typeRequired hparameter hempty =>
      exact .inr ⟨_, mem_reportedSections _, .inr ⟨_, _, hparameter,
        .inr (mem_faultsOfTypes.mpr (.inl ⟨hempty, rfl⟩))⟩⟩
    | tooManyTypes hparameter htyped hmany =>
      exact .inr ⟨_, mem_reportedSections _, .inr ⟨_, _, hparameter,
        .inr (mem_faultsOfTypes.mpr (.inr (.inl ⟨htyped, hmany, rfl⟩)))⟩⟩
    | unsupportedType hparameter hname hother =>
      exact .inr ⟨_, mem_reportedSections _, .inr ⟨_, _, hparameter,
        .inr (mem_faultsOfTypes.mpr (.inr (.inr ⟨_, _, hname, hother, rfl⟩)))⟩⟩

/-- The breaches of a batch are the rules that its models break. -/
theorem mem_breaches {limits : Limits} {models : List Model} {breach : Breach} :
    breach ∈ breaches limits models ↔
      ∃ model, models[breach.model]? = some model ∧
        model.Breaks limits breach.site breach.rule := by
  unfold breaches
  simp only [List.mem_flatMap, List.mem_map]
  constructor
  · rintro ⟨entry, hentry, fault, hfault, rfl⟩
    exact ⟨entry.1, List.mem_zipIdx_iff_getElem?.mp hentry, mem_faultsOfModel.mp hfault⟩
  · rintro ⟨model, hmodel, hbreaks⟩
    exact ⟨(model, breach.model), List.mk_mem_zipIdx_iff_getElem?.mpr hmodel,
      (breach.site, breach.rule), mem_faultsOfModel.mpr hbreaks, rfl⟩

/-! ### The order of a report -/

/-- The places of a list stand in their order. -/
theorem pairwise_zipIdx {α : Type} (items : List α) :
    items.zipIdx.Pairwise fun first second => first.2 < second.2 := by
  have h : (items.zipIdx.map Prod.snd).Pairwise (· < ·) := by
    rw [List.zipIdx_map_snd]
    exact List.pairwise_lt_range' 1
  exact List.pairwise_map.mp h

/-- Two faults stand in the order of their sites. -/
def Site.Fault.Before (first second : Site.Fault) : Prop :=
  first.1.rank < second.1.rank

/-- A fault of a parameter has the rank of the parameter with something behind it. -/
theorem rank_of_mem_faultsOfParameter {limits : Limits} {sec : Section} {index : Nat}
    {parameter : Parameter} {fault : Site.Fault}
    (h : fault ∈ faultsOfParameter limits sec index parameter) :
    ∃ detail inner, fault.1.rank = 2 :: sec.rank :: index :: detail :: inner := by
  rcases List.mem_append.mp h with hname | htypes
  · obtain ⟨_, _, rfl⟩ := List.mem_map.mp hname
    exact ⟨0, [], rfl⟩
  · rcases mem_faultsOfTypes.mp htypes with ⟨_, rfl⟩ | ⟨_, _, rfl⟩ | ⟨position, _, _, _, rfl⟩
    · exact ⟨1, [], rfl⟩
    · exact ⟨1, [], rfl⟩
    · exact ⟨1, [position], rfl⟩

/-- A fault of a section has the rank of the section, maybe with something behind it. -/
theorem rank_of_mem_faultsOfSection {limits : Limits} {sec : Section}
    {parameters : List Parameter} {fault : Site.Fault}
    (h : fault ∈ faultsOfSection limits sec parameters) :
    ∃ inner, fault.1.rank = 2 :: sec.rank :: inner := by
  rcases List.mem_append.mp h with hcount | hparameters
  · obtain ⟨_, _, rfl⟩ := List.mem_map.mp hcount
    exact ⟨[], rfl⟩
  · obtain ⟨entry, _, hfault⟩ := List.mem_flatMap.mp hparameters
    obtain ⟨detail, inner, hrank⟩ := rank_of_mem_faultsOfParameter hfault
    exact ⟨entry.2 :: detail :: inner, hrank⟩

/-- The faults of types stand in their order. -/
theorem pairwise_faultsOfTypes (limits : Limits) (sec : Section) (index : Nat)
    (types : List String) :
    (faultsOfTypes limits sec index types).Pairwise Site.Fault.Before := by
  unfold faultsOfTypes
  split
  · exact List.pairwise_singleton ..
  · refine List.pairwise_append.mpr ⟨?_, ?_, ?_⟩
    · split
      · exact List.pairwise_singleton ..
      · exact .nil
    · refine List.pairwise_map.mpr (((pairwise_zipIdx types).filter _).imp ?_)
      intro first second hlt
      simpa [Site.Fault.Before, Site.rank, List.cons_lt_cons_iff] using hlt
    · intro first hfirst second hsecond
      obtain ⟨entry, _, rfl⟩ := List.mem_map.mp hsecond
      split at hfirst
      · rw [List.mem_singleton.mp hfirst]
        simp [Site.Fault.Before, Site.rank]
      · cases hfirst

/-- A rule broken by a text is the only one. -/
theorem pairwise_brokenByText {text : String} {limit : UInt64} {required tooLong : BrokenRule}
    {R : BrokenRule → BrokenRule → Prop} :
    (brokenByText text limit required tooLong).Pairwise R := by
  unfold brokenByText
  split
  · exact List.pairwise_singleton ..
  · split
    · exact List.pairwise_singleton ..
    · exact .nil

/-- A rule broken by a method is the only one. -/
theorem pairwise_brokenByMethod {method : String} {R : BrokenRule → BrokenRule → Prop} :
    (brokenByMethod method).Pairwise R := by
  unfold brokenByMethod
  split
  · exact List.pairwise_singleton ..
  · split
    · exact .nil
    · exact List.pairwise_singleton ..

/-- A rule broken by the number of parameters is the only one. -/
theorem pairwise_brokenByCount {limits : Limits} {parameters : List Parameter}
    {R : BrokenRule → BrokenRule → Prop} :
    (brokenByCount limits parameters).Pairwise R := by
  unfold brokenByCount
  split
  · exact List.pairwise_singleton ..
  · exact .nil

/-- The faults of a parameter stand in their order, the name before the types. -/
theorem pairwise_faultsOfParameter (limits : Limits) (sec : Section) (index : Nat)
    (parameter : Parameter) :
    (faultsOfParameter limits sec index parameter).Pairwise Site.Fault.Before := by
  refine List.pairwise_append.mpr ⟨List.pairwise_map.mpr pairwise_brokenByText,
    pairwise_faultsOfTypes .., ?_⟩
  intro first hfirst second hsecond
  obtain ⟨_, _, rfl⟩ := List.mem_map.mp hfirst
  rcases mem_faultsOfTypes.mp hsecond with ⟨_, rfl⟩ | ⟨_, _, rfl⟩ | ⟨_, _, _, _, rfl⟩
  all_goals simp [Site.Fault.Before, Site.rank, List.cons_lt_cons_iff]

/-- The faults of a section stand in their order, the number of parameters before each one. -/
theorem pairwise_faultsOfSection (limits : Limits) (sec : Section)
    (parameters : List Parameter) :
    (faultsOfSection limits sec parameters).Pairwise Site.Fault.Before := by
  refine List.pairwise_append.mpr ⟨List.pairwise_map.mpr pairwise_brokenByCount,
    List.pairwise_flatMap.mpr ⟨fun _ _ => pairwise_faultsOfParameter .., ?_⟩, ?_⟩
  · refine (pairwise_zipIdx parameters).imp fun hlt fault hfault other hother => ?_
    obtain ⟨_, _, hrank⟩ := rank_of_mem_faultsOfParameter hfault
    obtain ⟨_, _, hrank'⟩ := rank_of_mem_faultsOfParameter hother
    simp [Site.Fault.Before, hrank, hrank', List.cons_lt_cons_iff, hlt]
  · intro first hfirst second hsecond
    obtain ⟨_, _, rfl⟩ := List.mem_map.mp hfirst
    obtain ⟨entry, _, hfault⟩ := List.mem_flatMap.mp hsecond
    obtain ⟨_, _, hrank⟩ := rank_of_mem_faultsOfParameter hfault
    change [2, sec.rank] < second.1.rank
    rw [hrank]
    simp

/-- Sections are reported in the order of their ranks. -/
theorem pairwise_reportedSections :
    reportedSections.Pairwise fun first second => first.rank < second.rank := by
  decide

/-- The faults of a model stand in their order. -/
theorem pairwise_faultsOfModel (limits : Limits) (model : Model) :
    (faultsOfModel limits model).Pairwise Site.Fault.Before := by
  refine List.pairwise_append.mpr ⟨List.pairwise_append.mpr
    ⟨List.pairwise_map.mpr pairwise_brokenByText, List.pairwise_map.mpr pairwise_brokenByMethod, ?_⟩,
    List.pairwise_flatMap.mpr ⟨fun _ _ => pairwise_faultsOfSection .., ?_⟩, ?_⟩
  · intro first hfirst second hsecond
    obtain ⟨_, _, rfl⟩ := List.mem_map.mp hfirst
    obtain ⟨_, _, rfl⟩ := List.mem_map.mp hsecond
    exact List.cons_lt_cons_iff.mpr (.inl Nat.zero_lt_one)
  · refine pairwise_reportedSections.imp fun hlt fault hfault other hother => ?_
    obtain ⟨_, hrank⟩ := rank_of_mem_faultsOfSection hfault
    obtain ⟨_, hrank'⟩ := rank_of_mem_faultsOfSection hother
    simp [Site.Fault.Before, hrank, hrank', List.cons_lt_cons_iff, hlt]
  · intro first hfirst second hsecond
    obtain ⟨_, _, hfault⟩ := List.mem_flatMap.mp hsecond
    obtain ⟨_, hrank⟩ := rank_of_mem_faultsOfSection hfault
    rcases List.mem_append.mp hfirst with hpath | hmethod
    · obtain ⟨_, _, rfl⟩ := List.mem_map.mp hpath
      change [0] < second.1.rank
      rw [hrank]
      exact List.cons_lt_cons_iff.mpr (.inl Nat.zero_lt_two)
    · obtain ⟨_, _, rfl⟩ := List.mem_map.mp hmethod
      change [1] < second.1.rank
      rw [hrank]
      exact List.cons_lt_cons_iff.mpr (.inl Nat.one_lt_two)

/-- The breaches of a batch stand in their order. -/
theorem pairwise_breaches (limits : Limits) (models : List Model) :
    (breaches limits models).Pairwise fun first second => first.rank < second.rank := by
  refine List.pairwise_flatMap.mpr ⟨fun entry _ => List.pairwise_map.mpr ?_, ?_⟩
  · exact (pairwise_faultsOfModel limits entry.1).imp fun hbefore =>
      List.cons_lt_cons_iff.mpr (.inr ⟨rfl, hbefore⟩)
  · refine (pairwise_zipIdx models).imp fun hlt breach hbreach other hother => ?_
    obtain ⟨_, _, rfl⟩ := List.mem_map.mp hbreach
    obtain ⟨_, _, rfl⟩ := List.mem_map.mp hother
    exact List.cons_lt_cons_iff.mpr (.inl hlt)

/-! ### Batches behind one another -/

/-- A batch behind another one has its breaches raised by the models in front. -/
theorem breaches_append (limits : Limits) (models later : List Model) :
    breaches limits (models ++ later) =
      breaches limits models ++ (breaches limits later).map (Breach.raise models.length) := by
  unfold breaches
  rw [List.zipIdx_append, List.flatMap_append, Nat.zero_add,
    @List.zipIdx_eq_map_add _ later models.length, List.flatMap_map, List.map_flatMap]
  simp only [List.map_map]
  rfl

end ApiDrift
