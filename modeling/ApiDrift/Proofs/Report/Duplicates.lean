import ApiDrift.Proofs.Store.Batch
import Mathlib.Data.List.Dedup
import Mathlib.Data.List.Induction

/-!
# Models of one key in a batch

A report warns of every model whose key an earlier model of the batch has, and of the models of one
key only the first is stored. The two walk over the batch apart from each other, and they agree:
every model is either stored or warned of. A warning stands at the later model, and names the first
one and their key.
-/

namespace ApiDrift

/-- A batch has a key exactly when one of the models that are stored has it. -/
theorem mem_keys_firstOfEachKey {models : List Model} {key : EndpointKey} :
    key ∈ (firstOfEachKey models).map Prod.fst ↔ key ∈ models.map Model.key := by
  have hfound : key ∈ (firstOfEachKey models).map Prod.fst ↔
      (models.find? fun model => model.key == key).isSome := by
    rw [Option.isSome_iff_exists, List.mem_map]
    constructor
    · rintro ⟨⟨_, model⟩, hmem, rfl⟩
      exact ⟨model, mem_firstOfEachKey.mp hmem⟩
    · rintro ⟨model, hmodel⟩
      exact ⟨(key, model), mem_firstOfEachKey.mpr hmodel, rfl⟩
  rw [hfound, List.find?_isSome, List.mem_map]
  simp only [beq_iff_eq]

/-- As many models are stored as there are keys in the batch. -/
theorem length_firstOfEachKey (models : List Model) :
    (firstOfEachKey models).length = (models.map Model.key).dedup.length := by
  have hperm : ((firstOfEachKey models).map Prod.fst).Perm (models.map Model.key).dedup := by
    rw [List.perm_ext_iff_of_nodup (nodup_firstOfEachKey models) (List.nodup_dedup _)]
    intro key
    rw [mem_keys_firstOfEachKey, List.mem_dedup]
  rw [← hperm.length_eq, List.length_map]

/-- One more model at the end of a batch is stored exactly when its key is new. -/
theorem firstOfEachKey_concat (models : List Model) (model : Model) :
    firstOfEachKey (models ++ [model]) =
      firstOfEachKey models ++
        if model.key ∈ models.map Model.key then [] else [(model.key, model)] := by
  have hthere : model.key ∈ (models.foldl addFirst []).map Prod.fst ↔
      model.key ∈ models.map Model.key := by
    rw [← mem_keys_firstOfEachKey, firstOfEachKey_eq, List.map_reverse, List.mem_reverse]
  rw [firstOfEachKey_eq, firstOfEachKey_eq, List.foldl_append, List.foldl_cons, List.foldl_nil,
    addFirst]
  by_cases h : model.key ∈ models.map Model.key
  · rw [if_pos (any_key_iff.mpr (hthere.mpr h)), if_pos h, List.append_nil]
  · rw [if_neg (mt any_key_iff.mp (mt hthere.mp h)), if_neg h, List.reverse_cons]

/-- The model at one place of a batch has a key that the model at an earlier place is the first to
have. -/
structure RepeatsFirst (models : List Model) (index first : Nat) (key : EndpointKey) : Prop where
  /-- The first place of the key comes before. -/
  earlier : first < index
  /-- The model has the key. -/
  repeated : (models.map Model.key)[index]? = some key
  /-- The model at the first place of the key has it. -/
  original : (models.map Model.key)[first]? = some key
  /-- No model before that one has it. -/
  least : ∀ before < first, (models.map Model.key)[before]? ≠ some key

/-- A warning stands at a model of a batch, and tells that its key is the one of an earlier model,
which is the only one that is kept. -/
structure ReportWarning.Tells (warning : ReportWarning) (index first : Nat) (key : EndpointKey) :
    Prop where
  /-- The warning stands at the later model. -/
  path : warning.path = "models[" ++ toString index ++ "]"
  /-- The warning names the earlier model and the key. -/
  message : warning.message = "duplicate of models[" ++ toString first ++ "] (" ++ key.text ++
    "), only the first occurrence is kept"

/-- The warning for a model tells what it should. -/
theorem duplicateWarning_tells (index first : Nat) (key : EndpointKey) :
    (duplicateWarning index first key).Tells index first key where
  path := rfl
  message := by simp [duplicateWarning, itemPath, ← String.toList_inj]

/-- No place before the first one of a key has the key. -/
theorem getElem?_ne_of_lt_idxOf {keys : List EndpointKey} {key : EndpointKey} {before : Nat}
    (h : before < keys.idxOf key) : keys[before]? ≠ some key := by
  intro hfound
  obtain ⟨hlt, heq⟩ := List.getElem?_eq_some_iff.mp hfound
  exact ne_of_beq_false (List.not_of_lt_findIdx h) heq

/-- The first place of a key is the one that has it and before which no place does. -/
theorem idxOf_eq_iff_first {keys : List EndpointKey} {key : EndpointKey} {first : Nat}
    (h : key ∈ keys) :
    keys.idxOf key = first ↔
      keys[first]? = some key ∧ ∀ before < first, keys[before]? ≠ some key := by
  constructor
  · rintro rfl
    exact ⟨List.getElem?_idxOf h, fun before hbefore => getElem?_ne_of_lt_idxOf hbefore⟩
  · rintro ⟨hfirst, hleast⟩
    rcases Nat.lt_trichotomy (keys.idxOf key) first with hlt | heq | hlt
    · exact absurd (List.getElem?_idxOf h) (hleast _ hlt)
    · exact heq
    · exact absurd hfirst (getElem?_ne_of_lt_idxOf hlt)

/-- A place is listed exactly when it repeats a key, with the first place of the key. -/
theorem mem_duplicates {models : List Model} {index first : Nat} {key : EndpointKey} :
    (index, first, key) ∈ duplicates models ↔ RepeatsFirst models index first key := by
  have hlisted : (index, first, key) ∈ duplicates models ↔
      (models.map Model.key)[index]? = some key ∧
        (models.map Model.key).idxOf key = first ∧ first < index := by
    simp only [duplicates, List.mem_filterMap, List.mem_zipIdx_iff_getElem?, Prod.exists]
    constructor
    · rintro ⟨found, place, hfound, hlisted⟩
      split at hlisted
      · next hlater =>
        cases hlisted
        exact ⟨hfound, rfl, hlater⟩
      · cases hlisted
    · rintro ⟨hfound, rfl, hlater⟩
      exact ⟨key, index, hfound, if_pos hlater⟩
  rw [hlisted]
  constructor
  · rintro ⟨hfound, hfirst, hlater⟩
    obtain ⟨horiginal, hleast⟩ := (idxOf_eq_iff_first (List.mem_of_getElem? hfound)).mp hfirst
    exact ⟨hlater, hfound, horiginal, hleast⟩
  · intro h
    have hmem := List.mem_of_getElem? h.repeated
    exact ⟨h.repeated, (idxOf_eq_iff_first hmem).mpr ⟨h.original, h.least⟩, h.earlier⟩

/-- One more model at the end of a batch is listed exactly when its key is not new. -/
theorem duplicates_concat (models : List Model) (model : Model) :
    duplicates (models ++ [model]) =
      duplicates models ++
        if model.key ∈ models.map Model.key then
          [(models.length, (models.map Model.key).idxOf model.key, model.key)]
        else [] := by
  have hfirst : ∀ key ∈ models.map Model.key,
      (models.map Model.key ++ [model.key]).idxOf key = (models.map Model.key).idxOf key :=
    fun key hmem => List.idxOf_append_of_mem hmem
  unfold duplicates
  dsimp only
  rw [List.map_append, List.map_singleton, List.zipIdx_append, List.filterMap_append]
  congr 1
  · refine List.filterMap_congr fun entry hentry => ?_
    rw [hfirst entry.1 (List.fst_mem_of_mem_zipIdx hentry)]
  · rw [List.zipIdx_singleton, Nat.zero_add, List.length_map]
    by_cases h : model.key ∈ models.map Model.key
    · have hlt := List.idxOf_lt_length_iff.mpr h
      rw [List.length_map] at hlt
      simp only [List.filterMap_cons, List.filterMap_nil, hfirst _ h, if_pos hlt, if_pos h]
    · have hnew : ¬(models.map Model.key ++ [model.key]).idxOf model.key < models.length := by
        rw [List.idxOf_append_of_notMem h, List.length_map]
        omega
      simp only [List.filterMap_cons, List.filterMap_nil, if_neg hnew, if_neg h]

/-- The places are listed in increasing order. -/
theorem pairwise_duplicates (models : List Model) :
    (duplicates models).Pairwise fun a b => a.1 < b.1 := by
  induction models using List.reverseRecOn with
  | nil => exact .nil
  | append_singleton models model ih =>
    rw [duplicates_concat]
    refine List.pairwise_append.mpr ⟨ih, ?_, fun entry hentry last hlast => ?_⟩
    · split
      · exact List.pairwise_singleton _ _
      · exact .nil
    · obtain ⟨index, first, key⟩ := entry
      have hplace := (mem_duplicates.mp hentry).repeated
      have hlt := (List.getElem?_eq_some_iff.mp hplace).1
      rw [List.length_map] at hlt
      split at hlast
      · rw [List.mem_singleton.mp hlast]
        exact hlt
      · exact absurd hlast List.not_mem_nil

/-- The warnings of a report stand one by one for the places that are listed. -/
theorem forall₂_warnings (limits : Limits) (models : List Model) :
    List.Forall₂ (fun entry warning => warning.Tells entry.1 entry.2.1 entry.2.2)
      (duplicates models) (reportModels limits models).warnings :=
  List.forall₂_map_right_iff.mpr
    (List.forall₂_same.mpr fun entry _ => duplicateWarning_tells entry.1 entry.2.1 entry.2.2)

/-- Every model of a batch is either stored or listed. -/
theorem length_duplicates_add (models : List Model) :
    (duplicates models).length + (firstOfEachKey models).length = models.length := by
  induction models using List.reverseRecOn with
  | nil => rfl
  | append_singleton models model ih =>
    rw [duplicates_concat, firstOfEachKey_concat]
    by_cases h : model.key ∈ models.map Model.key
    · rw [if_pos h, if_pos h]
      simp only [List.length_append, List.length_singleton, List.length_nil]
      omega
    · rw [if_neg h, if_neg h]
      simp only [List.length_append, List.length_singleton, List.length_nil]
      omega

end ApiDrift
