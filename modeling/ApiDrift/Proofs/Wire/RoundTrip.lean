import ApiDrift.Proofs.Json.Nesting
import ApiDrift.Wire.Anomaly
import ApiDrift.Wire.Health
import ApiDrift.Wire.Model
import ApiDrift.Wire.Report
import ApiDrift.Wire.Request
import ApiDrift.Wire.Settings

/-!
# What is written is read back

Records are written as objects of their fields, and the sections of a request as objects of their
bindings. Whatever a model, a request, an anomaly, a report, the counters of a cache or settings
say, they are read back from the value that they are written as.
-/

namespace ApiDrift

namespace Dictionary

/-- The dictionary with every value replaced by its image. -/
def mapValues {α β : Type} (f : α → β) (d : Dictionary α) : Dictionary β where
  entries := d.entries.map fun entry => (entry.1, f entry.2)
  ordered := List.pairwise_map.mpr d.ordered

end Dictionary

namespace Json

variable {α : Type}

/-- Steps that all succeed give the list of their results. -/
theorem mapM_eq_ok {β ε : Type} {f : α → Except ε β} {g : α → β} {items : List α}
    (h : ∀ item ∈ items, f item = .ok (g item)) : items.mapM f = .ok (items.map g) := by
  induction items with
  | nil => rfl
  | cons first rest ih =>
    obtain ⟨hfirst, hrest⟩ := List.forall_mem_cons.mp h
    rw [List.mapM_cons, hfirst, ih hrest]
    rfl

/-- Only `null` is written as `null`. -/
theorem toTree_ne_null {value : Value} (h : value ≠ .null) : value.toTree ≠ .null := by
  cases value with
  | null => exact absurd rfl h
  | _ => simp [Value.toTree]

section

variable {name : String} {decoder : Decoder α} {default value : α} {written : Value}
  {members : List (String × Value)}

/-- A field that has to be there is read from its member. -/
theorem RecordField.reads_required (hmem : (name, written) ∈ members)
    (h : decoder.ofValue written = .ok value) : (required name decoder).Reads members value :=
  .inl ⟨written, hmem, h⟩

/-- A field with a default is read from its member, unless that is `null`. -/
theorem RecordField.reads_defaulted (hmem : (name, written) ∈ members)
    (h : decoder.ofValue written = .ok value) (hwritten : written ≠ .null) :
    (defaulted name default decoder).Reads members value := by
  refine .inl ⟨written, hmem, ?_⟩
  change decoder.orDefault default .value written.toTree = .ok value
  unfold Decoder.ofValue at h
  unfold Decoder.orDefault
  split
  · next heq => exact absurd heq (toTree_ne_null hwritten)
  · exact h

/-- A field that may be missing is read from its member, unless that is `null`. -/
theorem RecordField.reads_optional (hmem : (name, written) ∈ members)
    (h : decoder.ofValue written = .ok value) (hwritten : written ≠ .null) :
    (optional name decoder).Reads members (some value) := by
  refine .inl ⟨written, hmem, ?_⟩
  change decoder.optional .value written.toTree = .ok (some value)
  unfold Decoder.ofValue at h
  unfold Decoder.optional
  split
  · next heq => exact absurd heq (toTree_ne_null hwritten)
  · rw [h]
    rfl

end

/-- A text is read from itself. -/
theorem Decoder.ofValue_string (text : String) :
    Decoder.string.ofValue (.string text) = .ok text := by
  rw [ofValue, Value.toTree, Decoder.string]

/-- A truth value is read from itself. -/
theorem Decoder.ofValue_boolean (value : Bool) :
    Decoder.boolean.ofValue (.boolean value) = .ok value := by
  rw [ofValue, Value.toTree, Decoder.boolean]

/-- A natural number within a width is read from itself. -/
theorem Decoder.ofValue_natural {width : Width} {n : Nat} (h : n ≤ width.greatest) :
    (Decoder.natural width).ofValue (.natural n) = .ok n := by
  rw [ofValue, Value.natural, Value.toTree, Decoder.natural, if_pos ⟨Int.natCast_nonneg n, h⟩]
  rfl

/-- A number of sixteen bits is read from itself. -/
theorem Decoder.ofValue_word16 (n : UInt16) :
    Decoder.word16.ofValue (.natural n.toNat) = .ok n := by
  have hfits : n.toNat ≤ Width.bits16.greatest := Nat.le_pred_of_lt n.toNat_lt
  change ((Decoder.natural .bits16).ofValue (.natural n.toNat)).map UInt16.ofNat = .ok n
  rw [ofValue_natural hfits, Except.map, UInt16.ofNat_toNat]

/-- A number of sixty-four bits is read from itself. -/
theorem Decoder.ofValue_word64 (n : UInt64) :
    Decoder.word64.ofValue (.natural n.toNat) = .ok n := by
  have hfits : n.toNat ≤ Width.bits64.greatest := Nat.le_pred_of_lt n.toNat_lt
  change ((Decoder.natural .bits64).ofValue (.natural n.toNat)).map UInt64.ofNat = .ok n
  rw [ofValue_natural hfits, Except.map, UInt64.ofNat_toNat]

/-- A size is read from itself. -/
theorem Decoder.ofValue_size (n : UInt64) : Decoder.size.ofValue (.natural n.toNat) = .ok n := by
  have hfits : n.toNat ≤ Width.size.greatest := Nat.le_pred_of_lt n.toNat_lt
  change ((Decoder.natural .size).ofValue (.natural n.toNat)).map UInt64.ofNat = .ok n
  rw [ofValue_natural hfits, Except.map, UInt64.ofNat_toNat]

/-- A list is read back when each of its items is. -/
theorem Decoder.ofValue_list {item : Decoder α} {write : α → Value}
    (h : ∀ value, item.ofValue (write value) = .ok value) (values : List α) :
    (Decoder.list item).ofValue (.array (values.map write)) = .ok values := by
  have hitems : ((values.map write).map Value.toTree).mapM (item .value) = .ok values := by
    rw [List.map_map, List.mapM_map]
    exact (mapM_eq_ok fun value _ => h value).trans (congrArg Except.ok values.map_id)
  rw [ofValue, Value.toTree]
  change (((values.map write).map Value.toTree).mapM (item .value)).bind _ = _
  rw [hitems]
  rfl

/-- A list of texts is read back. -/
theorem Decoder.ofValue_strings (texts : List String) :
    (Decoder.list Decoder.string).ofValue (.strings texts) = .ok texts :=
  ofValue_list ofValue_string texts

end Json

namespace Wire

open Json

/-- A parameter is read back. -/
theorem ofValue_ofParameter (written : Parameter) :
    parameter.ofValue (ofParameter written) = .ok written := by
  refine Decoder.ofValue_record (written.name, written.types, written.required, ())
    (by decide) (by simp) ⟨?_, ?_, ?_, trivial⟩
  · exact RecordField.reads_defaulted (by simp) (Decoder.ofValue_string _) nofun
  · exact RecordField.reads_defaulted (by simp) (Decoder.ofValue_strings _) nofun
  · exact RecordField.reads_defaulted (by simp) (Decoder.ofValue_boolean _) nofun

/-- A list of parameters is read back from its member. -/
theorem reads_parametersField {name : String} {parameters : List Parameter}
    {members : List (String × Value)} (hmem : (name, ofParameters parameters) ∈ members) :
    (parametersField name).Reads members parameters :=
  RecordField.reads_defaulted hmem (Decoder.ofValue_list ofValue_ofParameter parameters) nofun

/-- A model is read back. -/
theorem ofValue_ofModel (written : Model) : model.ofValue (ofModel written) = .ok written := by
  refine Decoder.ofValue_record
    (written.path, written.method, written.queryParams, written.headers, written.body, ())
    (by decide) (by simp) ⟨?_, ?_, ?_, ?_, ?_, trivial⟩
  · exact RecordField.reads_defaulted (by simp) (Decoder.ofValue_string _) nofun
  · exact RecordField.reads_defaulted (by simp) (Decoder.ofValue_string _) nofun
  · exact reads_parametersField (by simp)
  · exact reads_parametersField (by simp)
  · exact reads_parametersField (by simp)

/-- A batch of models is read back. -/
theorem ofValue_ofModels (written : List Model) :
    models.ofValue (ofModels written) = .ok written :=
  Decoder.ofValue_list ofValue_ofModel written

/-- A section of values is read back from the object of its bindings, whatever their names and
values are. -/
theorem ofValue_valueSection (written : Dictionary Value) :
    valueSection.ofValue (.object written.entries) = .ok written := by
  change ((Value.object written.entries).toTree.toValue .value).bind _ = _
  rw [toValue_toTree]
  have hkept : (written.entries.map fun entry => (entry.1, kept .value entry.2)) =
      written.entries := List.map_id _
  change Except.ok (Dictionary.ofList
    (written.entries.map fun entry => (entry.1, kept .value entry.2))) = _
  rw [hkept, Dictionary.ofList_entries]

/-- Texts are read from the values that they are written as. -/
theorem scalarTexts_mapValues (written : Dictionary String) :
    scalarTexts (written.mapValues .string).entries = .ok written.entries := by
  have htexts :
      ((written.entries.map fun entry => (entry.1, Value.string entry.2)).mapM fun entry => (do
        let text? ← scalarText? entry.1 entry.2
        return text?.map fun text => (entry.1, text) : Except Mismatch _)) =
      .ok (written.entries.map some) := by
    rw [List.mapM_map]
    exact mapM_eq_ok fun entry _ => rfl
  change Except.bind _ _ = _
  rw [Dictionary.mapValues, htexts]
  exact congrArg Except.ok (by simp)

/-- A section of texts is read back from the object of its bindings. -/
theorem ofValue_textSection (written : Dictionary String) :
    textSection.ofValue (ofTexts written) = .ok written := by
  change (valueSection.ofValue (.object (written.mapValues .string).entries)).bind _ = _
  rw [ofValue_valueSection]
  change ((scalarTexts (written.mapValues .string).entries).mapError Failure.mismatch).bind _ = _
  rw [scalarTexts_mapValues]
  exact congrArg Except.ok (Dictionary.ofList_entries written)

/-- A request is read back. -/
theorem ofValue_ofRequest (written : Request) :
    request.ofValue (ofRequest written) = .ok written := by
  refine Decoder.ofValue_record
    (written.method, written.path, written.queryParams, written.headers, written.body, ())
    (by decide) (by simp) ⟨?_, ?_, ?_, ?_, ?_, trivial⟩
  · exact RecordField.reads_defaulted (by simp) (Decoder.ofValue_string _) nofun
  · exact RecordField.reads_defaulted (by simp) (Decoder.ofValue_string _) nofun
  · exact .inl ⟨_, by simp [sectionField], ofValue_textSection _⟩
  · exact .inl ⟨_, by simp [sectionField], ofValue_textSection _⟩
  · exact .inl ⟨_, by simp [sectionField], ofValue_valueSection _⟩

/-- A type of anomalies is read back from its text. -/
theorem ofValue_ofAnomalyType (written : AnomalyType) :
    anomalyType.ofValue (ofAnomalyType written) = .ok written := by
  have hread : Decoder.string .value (ofAnomalyType written).toTree = .ok written.text :=
    Decoder.ofValue_string written.text
  rw [Decoder.ofValue, anomalyType, hread]
  simp only [bind, Except.bind, AnomalyType.ofText?_text]
  rfl

/-- An anomaly is read back. -/
theorem ofValue_ofAnomaly (written : Anomaly) :
    anomaly.ofValue (ofAnomaly written) = .ok written := by
  refine Decoder.ofValue_record (written.type, written.description, ())
    (by decide) (by simp) ⟨?_, ?_, trivial⟩
  · exact RecordField.reads_required (by simp) (ofValue_ofAnomalyType _)
  · exact RecordField.reads_required (by simp) (Decoder.ofValue_string _)

/-- An error is read back, whether it has a suggestion or none. -/
theorem ofValue_ofReportError (written : ReportError) :
    reportError.ofValue (ofReportError written) = .ok written := by
  obtain ⟨path, message, suggestion⟩ := written
  refine Decoder.ofValue_record (path, message, suggestion, ())
    (by decide) (by cases suggestion <;> simp) ⟨?_, ?_, ?_, trivial⟩
  · exact RecordField.reads_required (by simp) (Decoder.ofValue_string _)
  · exact RecordField.reads_required (by simp) (Decoder.ofValue_string _)
  · cases suggestion with
    | none => exact .inr ⟨by simp [RecordField.optional], rfl⟩
    | some hint => exact RecordField.reads_optional (by simp) (Decoder.ofValue_string _) nofun

/-- A warning is read back. -/
theorem ofValue_ofReportWarning (written : ReportWarning) :
    reportWarning.ofValue (ofReportWarning written) = .ok written := by
  refine Decoder.ofValue_record (written.path, written.message, ())
    (by decide) (by simp) ⟨?_, ?_, trivial⟩
  · exact RecordField.reads_required (by simp) (Decoder.ofValue_string _)
  · exact RecordField.reads_required (by simp) (Decoder.ofValue_string _)

/-- A report is read back. -/
theorem ofValue_ofReport (written : Report) : report.ofValue (ofReport written) = .ok written := by
  refine Decoder.ofValue_record (written.valid, written.errors, written.warnings, ())
    (by decide) (by simp) ⟨?_, ?_, ?_, trivial⟩
  · exact RecordField.reads_required (by simp) (Decoder.ofValue_boolean _)
  · exact RecordField.reads_required (by simp) (Decoder.ofValue_list ofValue_ofReportError _)
  · exact RecordField.reads_required (by simp) (Decoder.ofValue_list ofValue_ofReportWarning _)

/-- The counters of a cache are read back. -/
theorem ofValue_ofCacheStats (written : CacheStats) :
    cacheStats.ofValue (ofCacheStats written) = .ok written := by
  refine Decoder.ofValue_record
    (written.entries, written.hits, written.misses, written.loads, written.loadFailures,
      written.evictions, written.expirations, written.invalidations, ())
    (by decide) (by simp) ⟨?_, ?_, ?_, ?_, ?_, ?_, ?_, ?_, trivial⟩
  · exact RecordField.reads_required (by simp) (Decoder.ofValue_size _)
  all_goals exact RecordField.reads_required (by simp) (Decoder.ofValue_word64 _)

/-- The settings of the server are read back. -/
theorem ofValue_ofServerSettings (written : ServerSettings) :
    serverSettings.ofValue (ofServerSettings written) = .ok written := by
  refine Decoder.ofValue_record (written.host, written.port, written.corsOrigin, ())
    (by decide) (by simp) ⟨?_, ?_, ?_, trivial⟩
  · exact RecordField.reads_required (by simp) (Decoder.ofValue_string _)
  · exact RecordField.reads_required (by simp) (Decoder.ofValue_word16 _)
  · exact RecordField.reads_required (by simp) (Decoder.ofValue_string _)

/-- Limits are read back. -/
theorem ofValue_ofLimits (written : Limits) : limits.ofValue (ofLimits written) = .ok written := by
  refine Decoder.ofValue_record
    (written.maxModels, written.maxParameters, written.maxTypes, written.maxLength, ())
    (by decide) (by simp) ⟨?_, ?_, ?_, ?_, trivial⟩
  all_goals exact RecordField.reads_required (by simp) (Decoder.ofValue_size _)

/-- The settings of the cache are read back. -/
theorem ofValue_ofCacheSettings (written : CacheSettings) :
    cacheSettings.ofValue (ofCacheSettings written) = .ok written := by
  refine Decoder.ofValue_record (written.maxEntries, written.ttl, ())
    (by decide) (by simp) ⟨?_, ?_, trivial⟩
  · exact RecordField.reads_required (by simp) (Decoder.ofValue_size _)
  · exact RecordField.reads_required (by simp) (Decoder.ofValue_word64 _)

/-- The settings of detection are read back. -/
theorem ofValue_ofDetectionSettings (written : DetectionSettings) :
    detectionSettings.ofValue (ofDetectionSettings written) = .ok written :=
  Decoder.ofValue_record (written.failOpen, ()) (by decide) (by simp)
    ⟨RecordField.reads_required (by simp) (Decoder.ofValue_boolean _), trivial⟩

/-- All settings are read back. -/
theorem ofValue_ofSettings (written : Settings) :
    settings.ofValue (ofSettings written) = .ok written := by
  refine Decoder.ofValue_record
    (written.profile, written.server, written.limits, written.cache, written.detection, ())
    (by decide) (by simp) ⟨?_, ?_, ?_, ?_, ?_, trivial⟩
  · exact RecordField.reads_required (by simp) (Decoder.ofValue_string _)
  · exact RecordField.reads_required (by simp) (ofValue_ofServerSettings _)
  · exact RecordField.reads_required (by simp) (ofValue_ofLimits _)
  · exact RecordField.reads_required (by simp) (ofValue_ofCacheSettings _)
  · exact RecordField.reads_required (by simp) (ofValue_ofDetectionSettings _)

/-- Reading inverts writing, for batches of models, requests, anomalies, reports, the counters of a
cache and settings alike. -/
theorem ofValue_written :
    (∀ written : List Model, models.ofValue (ofModels written) = .ok written) ∧
      (∀ written : Request, request.ofValue (ofRequest written) = .ok written) ∧
      (∀ written : Anomaly, anomaly.ofValue (ofAnomaly written) = .ok written) ∧
      (∀ written : Report, report.ofValue (ofReport written) = .ok written) ∧
      (∀ written : CacheStats, cacheStats.ofValue (ofCacheStats written) = .ok written) ∧
      ∀ written : Settings, settings.ofValue (ofSettings written) = .ok written :=
  ⟨ofValue_ofModels, ofValue_ofRequest, ofValue_ofAnomaly, ofValue_ofReport, ofValue_ofCacheStats,
    ofValue_ofSettings⟩

end Wire

end ApiDrift
