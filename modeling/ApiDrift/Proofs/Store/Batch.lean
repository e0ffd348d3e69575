import ApiDrift.Ingestion
import Mathlib.Data.List.Nodup

/-!
# Batches in the store

A batch is stored with the first model of each key. Since its keys are distinct, the order in which
its models are written does not matter: a key of the batch has the model of the batch, and every
other key keeps what it had.
-/

namespace ApiDrift

namespace Store

/-- One batch behind another is written as one. -/
theorem putAll_append (store : Store) (first second : List (EndpointKey × Model)) :
    store.putAll (first ++ second) = (store.putAll first).putAll second :=
  List.foldl_append

/-- A key that no entry of a batch has keeps its model. -/
theorem find?_putAll_of_notMem {store : Store} {batch : List (EndpointKey × Model)}
    {key : EndpointKey} (h : key ∉ batch.map Prod.fst) :
    (store.putAll batch).find? key = store.find? key := by
  induction batch generalizing store with
  | nil => rfl
  | cons entry rest ih =>
    rw [List.map_cons, List.mem_cons, not_or] at h
    have hrest : ((store.put entry.1 entry.2).putAll rest).find? key =
        (store.put entry.1 entry.2).find? key := ih h.2
    rw [find?_put, if_neg h.1] at hrest
    exact hrest

/-- A key of a batch with distinct keys has the model of the batch. -/
theorem find?_putAll_of_mem {store : Store} {batch : List (EndpointKey × Model)}
    {key : EndpointKey} {model : Model} (hkeys : (batch.map Prod.fst).Nodup)
    (h : (key, model) ∈ batch) : (store.putAll batch).find? key = some model := by
  induction batch generalizing store with
  | nil => cases h
  | cons entry rest ih =>
    rw [List.map_cons, List.nodup_cons] at hkeys
    rcases List.mem_cons.mp h with rfl | h
    · have hrest : ((store.put key model).putAll rest).find? key =
          (store.put key model).find? key := find?_putAll_of_notMem hkeys.1
      rw [find?_put, if_pos rfl] at hrest
      exact hrest
    · exact ih hkeys.2 h

/-- Stores that have the same model for every key are equal. -/
theorem eq_of_find? {store other : Store} (h : ∀ key, store.find? key = other.find? key) :
    store = other := by
  have hentries : store.models.entries = other.models.entries := by
    refine List.Perm.eq_of_pairwise (fun a b _ _ hab hba => ?_) store.models.ordered
      other.models.ordered ?_
    · exact absurd (Std.lt_trans hab hba) Std.lt_irrefl
    · have hdistinct : ∀ models : Dictionary Model, models.entries.Nodup := fun models =>
        models.ordered.imp fun hlt heq => absurd (heq ▸ hlt) Std.lt_irrefl
      rw [List.perm_ext_iff_of_nodup (hdistinct _) (hdistinct _)]
      rintro ⟨name, model⟩
      rw [← Dictionary.get?_eq_some_iff, ← Dictionary.get?_eq_some_iff]
      exact Eq.congr_left (h ⟨name⟩)
  cases store
  cases other
  exact congrArg Store.mk (Dictionary.eq_of_entries hentries)

/-- The order in which a batch with distinct keys is written does not matter. -/
theorem putAll_perm {store : Store} {batch written : List (EndpointKey × Model)}
    (hkeys : (batch.map Prod.fst).Nodup) (h : written.Perm batch) :
    store.putAll written = store.putAll batch := by
  have hwritten : (written.map Prod.fst).Nodup := (h.map Prod.fst).nodup_iff.mpr hkeys
  refine eq_of_find? fun key => ?_
  by_cases hkey : key ∈ batch.map Prod.fst
  · obtain ⟨⟨_, model⟩, hmem, rfl⟩ := List.mem_map.mp hkey
    rw [find?_putAll_of_mem hkeys hmem, find?_putAll_of_mem hwritten (h.mem_iff.mpr hmem)]
  · rw [find?_putAll_of_notMem hkey,
      find?_putAll_of_notMem (mt (h.map Prod.fst).mem_iff.mp hkey)]

end Store

/-- One more model of a batch, unless its key is there already. -/
def addFirst (batch : List (EndpointKey × Model)) (model : Model) : List (EndpointKey × Model) :=
  if batch.any (fun entry => entry.1 == model.key) then batch else (model.key, model) :: batch

/-- A batch has an entry of a key exactly when the key is one of its keys. -/
theorem any_key_iff {batch : List (EndpointKey × Model)} {key : EndpointKey} :
    batch.any (fun entry => entry.1 == key) = true ↔ key ∈ batch.map Prod.fst := by
  simp [List.any_eq_true]

/-- The entries behind more models are those that were there, and the first model of each key that
was not there. -/
theorem mem_foldl_addFirst {models : List Model} {batch : List (EndpointKey × Model)}
    {key : EndpointKey} {model : Model} :
    (key, model) ∈ models.foldl addFirst batch ↔
      (key, model) ∈ batch ∨
        (key ∉ batch.map Prod.fst ∧ models.find? (fun m => m.key == key) = some model) := by
  induction models generalizing batch with
  | nil => simp
  | cons first rest ih =>
    rw [List.foldl_cons, ih, List.find?_cons]
    by_cases hthere : first.key ∈ batch.map Prod.fst
    · rw [addFirst, if_pos (any_key_iff.mpr hthere)]
      by_cases hkey : first.key = key
      · simp [hkey ▸ hthere]
      · have hb : (first.key == key) = false := by simpa using hkey
        rw [hb]
    · rw [addFirst, if_neg (mt any_key_iff.mp hthere)]
      by_cases hkey : first.key = key
      · subst hkey
        simp only [List.mem_cons, Prod.mk.injEq, true_and, List.map_cons, true_or, not_true_eq_false,
          false_and, or_false, beq_self_eq_true, Option.some.injEq]
        constructor
        · rintro (rfl | hmem)
          · exact .inr ⟨hthere, rfl⟩
          · exact .inl hmem
        · rintro (hmem | ⟨-, rfl⟩)
          · exact .inr hmem
          · exact .inl rfl
      · have hb : (first.key == key) = false := by simpa using hkey
        have hne : ¬key = first.key := fun h => hkey h.symm
        simp [hb, hne]

/-- The keys behind more models are distinct if they were so before. -/
theorem nodup_foldl_addFirst {models : List Model} {batch : List (EndpointKey × Model)}
    (h : (batch.map Prod.fst).Nodup) : ((models.foldl addFirst batch).map Prod.fst).Nodup := by
  induction models generalizing batch with
  | nil => exact h
  | cons first rest ih =>
    refine ih ?_
    rw [addFirst]
    split
    · exact h
    · next hnew => exact List.nodup_cons.mpr ⟨mt any_key_iff.mpr hnew, h⟩

/-- The models of a batch are collected one after another. -/
theorem firstOfEachKey_eq (models : List Model) :
    firstOfEachKey models = (models.foldl addFirst []).reverse := rfl

/-- The first model of each key is stored. -/
theorem mem_firstOfEachKey {models : List Model} {key : EndpointKey} {model : Model} :
    (key, model) ∈ firstOfEachKey models ↔
      models.find? (fun m => m.key == key) = some model := by
  rw [firstOfEachKey_eq, List.mem_reverse, mem_foldl_addFirst]
  simp

/-- No key is stored twice. -/
theorem nodup_firstOfEachKey (models : List Model) :
    ((firstOfEachKey models).map Prod.fst).Nodup := by
  rw [firstOfEachKey_eq, List.map_reverse, List.nodup_reverse]
  exact nodup_foldl_addFirst .nil

end ApiDrift
