import ApiDrift.Ingestion

/-!
# Which batches pass

The models that break no rule are the sound ones: the path and the names of the parameters are not
blank and not too long, the method is an allowed one, no section has too many parameters, and each
parameter has types that are the names of tags, of which there are some but not too many. The report
on a batch is valid exactly when all its models are sound, whatever their places.
-/

namespace ApiDrift

/-- A method breaks no rule exactly when it is not blank and one of the allowed ones. -/
theorem brokenByMethod_eq_nil_iff {method : String} :
    brokenByMethod method = [] ↔
      Text.hasText method = true ∧ normalizeMethod method ∈ allowedMethods := by
  unfold brokenByMethod
  cases htext : Text.hasText method
  · simp
  · by_cases hallowed : normalizeMethod method ∈ allowedMethods <;> simp [hallowed]

/-- An allowed method is not blank. -/
theorem hasText_of_allowed {method : String} (h : normalizeMethod method ∈ allowedMethods) :
    Text.hasText method = true := by
  cases htext : Text.hasText method with
  | true => rfl
  | false =>
    have htrim : Text.trim method.toList = [] := by simpa [Text.hasText] using htext
    have hnone : "" ∉ allowedMethods := by decide
    rw [normalizeMethod, htrim] at h
    exact absurd h hnone

/-- A text breaks no rule exactly when it is not blank and not too long. -/
theorem brokenByText_eq_nil_iff {text : String} {limit : UInt64} {required tooLong : BrokenRule} :
    brokenByText text limit required tooLong = [] ↔
      Text.hasText text = true ∧ text.length ≤ limit.toNat := by
  unfold brokenByText exceeds
  cases htext : Text.hasText text
  · simp
  · by_cases hlong : limit.toNat < text.length
    · simp [hlong]
    · simp [hlong, Nat.not_lt.mp hlong]

/-- Types break no rule exactly when there are some, not too many, and all are supported. -/
theorem brokenByTypes_eq_nil_iff {limits : Limits} {types : List String} :
    brokenByTypes limits types = [] ↔
      types ≠ [] ∧ types.length ≤ limits.maxTypes.toNat ∧
        ∀ name ∈ types, Tag.isSupported name = true := by
  unfold brokenByTypes
  split
  · next hempty => simp [List.isEmpty_iff.mp hempty]
  · next hnonempty =>
    have htyped : types ≠ [] := mt List.isEmpty_iff.mpr hnonempty
    rw [List.append_eq_nil_iff, List.map_eq_nil_iff, List.filter_eq_nil_iff]
    by_cases hmany : limits.maxTypes.toNat < types.length
    · simp [hmany, Nat.not_le.mpr hmany]
    · simp [hmany, htyped, Nat.not_lt.mp hmany]

/-- Parameters break no rule of their number exactly when there are not too many. -/
theorem brokenByCount_eq_nil_iff {limits : Limits} {parameters : List Parameter} :
    brokenByCount limits parameters = [] ↔
      parameters.length ≤ limits.maxParameters.toNat := by
  unfold brokenByCount
  split
  · next hmany => simp [Nat.not_le.mpr hmany]
  · next hfew => simp [Nat.not_lt.mp hfew]

/-- A parameter as it may be learned. -/
structure Parameter.Sound (limits : Limits) (parameter : Parameter) : Prop where
  /-- It has a name. -/
  named : Text.hasText parameter.name = true
  /-- The name is not too long. -/
  nameFits : parameter.name.length ≤ limits.maxLength.toNat
  /-- It has a type. -/
  typed : parameter.types ≠ []
  /-- It does not have too many types. -/
  typesFit : parameter.types.length ≤ limits.maxTypes.toNat
  /-- Every type is the name of a tag. -/
  supported : ∀ name ∈ parameter.types, Tag.isSupported name = true

/-- A model as it may be learned. -/
structure Model.Sound (limits : Limits) (model : Model) : Prop where
  /-- It has a path. -/
  placed : Text.hasText model.path = true
  /-- The path is not too long. -/
  pathFits : model.path.length ≤ limits.maxLength.toNat
  /-- Its method is one of the allowed ones. -/
  allowed : normalizeMethod model.method ∈ allowedMethods
  /-- No section has too many parameters. -/
  sectionsFit : ∀ sec, (model.parameters sec).length ≤ limits.maxParameters.toNat
  /-- Every parameter of a section is sound. -/
  parameters : ∀ sec, ∀ parameter ∈ model.parameters sec, parameter.Sound limits

/-- A section breaks no rule exactly when it does not have too many parameters and all are sound. -/
theorem brokenInSection_eq_nil_iff {limits : Limits} {sec : Section}
    {parameters : List Parameter} :
    brokenInSection limits sec parameters = [] ↔
      parameters.length ≤ limits.maxParameters.toNat ∧
        ∀ parameter ∈ parameters, parameter.Sound limits := by
  unfold brokenInSection
  rw [List.append_eq_nil_iff, List.map_eq_nil_iff, brokenByCount_eq_nil_iff,
    List.flatMap_eq_nil_iff]
  refine and_congr_right fun _ => ⟨fun h parameter hmem => ?_, fun h entry hentry => ?_⟩
  · obtain ⟨index, hindex⟩ := List.mem_iff_getElem?.mp hmem
    have hunbroken := h (parameter, index) (List.mk_mem_zipIdx_iff_getElem?.mpr hindex)
    rw [List.append_eq_nil_iff, List.map_eq_nil_iff, List.map_eq_nil_iff] at hunbroken
    obtain ⟨hnamed, hfits⟩ := brokenByText_eq_nil_iff.mp hunbroken.1
    obtain ⟨htyped, htypes, hsupported⟩ := brokenByTypes_eq_nil_iff.mp hunbroken.2
    exact ⟨hnamed, hfits, htyped, htypes, hsupported⟩
  · have hsound := h entry.1 (List.fst_mem_of_mem_zipIdx hentry)
    rw [List.append_eq_nil_iff, List.map_eq_nil_iff, List.map_eq_nil_iff]
    exact ⟨brokenByText_eq_nil_iff.mpr ⟨hsound.named, hsound.nameFits⟩,
      brokenByTypes_eq_nil_iff.mpr ⟨hsound.typed, hsound.typesFit, hsound.supported⟩⟩

/-- Every section is reported. -/
theorem mem_reportedSections (sec : Section) : sec ∈ reportedSections := by
  cases sec <;> decide

/-- A model breaks no rule exactly when it is sound. -/
theorem brokenInModel_eq_nil_iff {limits : Limits} {model : Model} :
    brokenInModel limits model = [] ↔ model.Sound limits := by
  unfold brokenInModel
  rw [List.append_eq_nil_iff, List.append_eq_nil_iff, List.map_eq_nil_iff, List.map_eq_nil_iff,
    List.flatMap_eq_nil_iff]
  constructor
  · rintro ⟨⟨hpath, hmethod⟩, hsections⟩
    obtain ⟨hplaced, hfits⟩ := brokenByText_eq_nil_iff.mp hpath
    have hsection := fun sec =>
      brokenInSection_eq_nil_iff.mp (hsections sec (mem_reportedSections sec))
    exact ⟨hplaced, hfits, (brokenByMethod_eq_nil_iff.mp hmethod).2, fun sec => (hsection sec).1,
      fun sec => (hsection sec).2⟩
  · intro h
    exact ⟨⟨brokenByText_eq_nil_iff.mpr ⟨h.placed, h.pathFits⟩,
        brokenByMethod_eq_nil_iff.mpr ⟨hasText_of_allowed h.allowed, h.allowed⟩⟩,
      fun sec _ => brokenInSection_eq_nil_iff.mpr ⟨h.sectionsFit sec, h.parameters sec⟩⟩

/-- A batch has no violations exactly when all its models are sound. -/
theorem violationsFrom_eq_nil_iff {limits : Limits} {start : Nat} {models : List Model} :
    violationsFrom limits start models = [] ↔ ∀ model ∈ models, model.Sound limits := by
  induction models generalizing start with
  | nil => simp [violationsFrom]
  | cons first rest ih =>
    have hcons : violationsFrom limits start (first :: rest) =
        (brokenInModel limits first).map (fun broken => ⟨start, broken.1, broken.2⟩) ++
          violationsFrom limits (start + 1) rest := rfl
    rw [hcons, List.append_eq_nil_iff, List.map_eq_nil_iff, brokenInModel_eq_nil_iff, ih,
      List.forall_mem_cons]

/-- The report on a batch is valid exactly when all its models are sound. -/
theorem reportModels_valid_iff {limits : Limits} {models : List Model} :
    (reportModels limits models).valid = true ↔ ∀ model ∈ models, model.Sound limits := by
  rw [← violationsFrom_eq_nil_iff]
  unfold reportModels Report.of
  rw [List.isEmpty_iff, List.map_eq_nil_iff]
  rfl

/-- A batch can be taken in exactly when it is neither empty nor too large and all its models are
sound. -/
theorem ingestionObstacle?_eq_none_iff {limits : Limits} {models : List Model} :
    ingestionObstacle? limits models = none ↔
      models ≠ [] ∧ models.length ≤ limits.maxModels.toNat ∧
        ∀ model ∈ models, model.Sound limits := by
  rw [← reportModels_valid_iff]
  unfold ingestionObstacle?
  split
  · next h => simp [List.isEmpty_iff.mp h]
  · next hempty =>
    have hne : models ≠ [] := mt List.isEmpty_iff.mpr hempty
    split
    · next hlarge => simp [Nat.not_le.mpr hlarge]
    · next hlarge =>
      have hfits : models.length ≤ limits.maxModels.toNat := Nat.not_lt.mp hlarge
      dsimp only
      split
      · next hvalid => simp [hne, hfits, hvalid]
      · next hinvalid => simp [hinvalid]

/-- Supported names are the names of tags. -/
theorem Tag.exists_map_name {names : List String}
    (h : ∀ name ∈ names, isSupported name = true) : ∃ tags : List Tag, names = tags.map name := by
  induction names with
  | nil => exact ⟨[], rfl⟩
  | cons first rest ih =>
    rw [List.forall_mem_cons] at h
    obtain ⟨tag, htag⟩ := Option.isSome_iff_exists.mp h.1
    obtain ⟨tags, rfl⟩ := ih h.2
    exact ⟨tag :: tags, by rw [List.map_cons, ofName?_eq_some_iff.mp htag]⟩

/-- A value is accepted by the names of tags exactly when one of the tags accepts it. -/
theorem Tag.acceptsAny_map_name {tags : List Tag} (hne : tags ≠ []) (value : String) :
    acceptsAny (tags.map name) value = tags.any fun tag => tag.accepts value.toList := by
  have hnonempty : (tags.map name).isEmpty = false := by simpa using hne
  have hnamed : ((fun text => acceptsNamed text value) ∘ name) =
      fun tag => tag.accepts value.toList := by
    funext tag
    rw [Function.comp_apply, acceptsNamed, ofName?_name, Option.any_some]
  rw [acceptsAny, hnonempty, Bool.false_or, List.any_map, hnamed]

/-- No allowed method has a colon. -/
theorem colon_notMem_of_mem_allowedMethods {method : String} (h : method ∈ allowedMethods) :
    ':' ∉ method.toList := by
  have hall : ∀ method ∈ allowedMethods, ':' ∉ method.toList := by decide
  exact hall method h

end ApiDrift
