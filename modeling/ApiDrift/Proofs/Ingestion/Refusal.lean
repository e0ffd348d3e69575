import ApiDrift.Proofs.Ingestion.Effect
import ApiDrift.Proofs.Report.Accepted

/-!
# Batches that are not taken in

A batch is refused for one cause: it is empty, or it is too large whatever its models are, or one of
its models is not sound, or else the store fails. A refused batch leaves the system as it found it,
also the loads that are running in it, except that a failure of the store that was to come has come.
-/

namespace ApiDrift

/-- The cause for which a batch is refused, by rank: each one presupposes that those before it do
not hold. The failure of the next write to the store is given, if there is one. -/
inductive Refused (limits : Limits) (models : List Model) (failure? : Option StoreError) :
    IngestionError → Prop where
  /-- There are no models. -/
  | empty (hempty : models = []) : Refused limits models failure? .emptyBatch
  /-- There are too many models. -/
  | large (hlarge : limits.maxModels.toNat < models.length) :
    Refused limits models failure? (.batchTooLarge models.length limits.maxModels.toNat)
  /-- Some model breaks a rule, and the report is on all models. -/
  | unsound (hfits : models.length ≤ limits.maxModels.toNat)
    (hunsound : ∃ model ∈ models, ¬model.Sound limits) :
    Refused limits models failure? (.invalidModels (reportModels limits models))
  /-- All models are sound, but the store fails. -/
  | storage {error : StoreError} (hnonempty : models ≠ [])
    (hfits : models.length ≤ limits.maxModels.toNat)
    (hsound : ∀ model ∈ models, model.Sound limits) (hfails : failure? = some error) :
    Refused limits models failure? (.storage error)

section

variable {limits : Limits} {models : List Model} {failure? : Option StoreError}

/-- The obstacle of a batch is the cause for which it is refused, whether the store fails or not. -/
theorem refused_of_ingestionObstacle? {error : IngestionError}
    (h : ingestionObstacle? limits models = some error) : Refused limits models failure? error := by
  unfold ingestionObstacle? at h
  split at h
  · next hempty =>
    cases h
    exact .empty (List.isEmpty_iff.mp hempty)
  · split at h
    · next hlarge =>
      cases h
      exact .large hlarge
    · next hfits =>
      dsimp only at h
      split at h
      · cases h
      · next hinvalid =>
        cases h
        refine .unsound (Nat.not_lt.mp hfits) ?_
        simpa using mt reportModels_valid_iff.mpr hinvalid

end

namespace System

variable {limits : Limits} {system : System} {models : List Model}

/-- A batch with an obstacle is refused for it, and nothing happens. -/
theorem ingest_of_ingestionObstacle? {error : IngestionError}
    (h : ingestionObstacle? limits models = some error) :
    system.ingest limits models = (.error error, system) := by
  rw [ingest, h]

/-- A batch without an obstacle is written to the store, which fails or does not. -/
theorem ingest_fst_of_no_obstacle (h : ingestionObstacle? limits models = none) :
    (system.ingest limits models).1 =
      match system.saveFault.next.1 with
      | some error => .error (.storage error)
      | none => .ok ⟨models.length, (firstOfEachKey models).length,
          models.length - (firstOfEachKey models).length⟩ := by
  rw [ingest, h]
  dsimp only [save]
  rcases system.saveFault.next with ⟨_ | error, fault⟩ <;> rfl

/-- A batch is answered with an error exactly when it is refused, and the error is the cause. -/
theorem ingest_fst_eq_error_iff {error : IngestionError} :
    (system.ingest limits models).1 = .error error ↔
      Refused limits models system.saveFault.next.1 error := by
  constructor
  · intro h
    cases hobstacle : ingestionObstacle? limits models with
    | some obstacle =>
      rw [ingest_of_ingestionObstacle? hobstacle] at h
      cases h
      exact refused_of_ingestionObstacle? hobstacle
    | none =>
      obtain ⟨hnonempty, hfits, hsound⟩ := ingestionObstacle?_eq_none_iff.mp hobstacle
      rw [ingest_fst_of_no_obstacle hobstacle] at h
      split at h
      · next failure hfails =>
        cases h
        exact .storage hnonempty hfits hsound hfails
      · cases h
  · intro h
    cases h with
    | empty hempty =>
      rw [hempty]
      rfl
    | large hlarge =>
      have hnonempty : ¬models.isEmpty := fun hempty => by
        rw [List.isEmpty_iff.mp hempty] at hlarge
        exact absurd hlarge (Nat.not_lt_zero _)
      rw [ingest_of_ingestionObstacle? ((if_neg hnonempty).trans (if_pos hlarge))]
    | unsound hfits hunsound =>
      obtain ⟨model, hmem, hmodel⟩ := hunsound
      have hnonempty : ¬models.isEmpty := fun hempty => by
        rw [List.isEmpty_iff.mp hempty] at hmem
        exact absurd hmem List.not_mem_nil
      have hinvalid : ¬(reportModels limits models).valid = true := fun hvalid =>
        hmodel (reportModels_valid_iff.mp hvalid model hmem)
      rw [ingest_of_ingestionObstacle?
        ((if_neg hnonempty).trans ((if_neg (Nat.not_lt.mpr hfits)).trans (if_neg hinvalid)))]
    | storage hnonempty hfits hsound hfails =>
      rw [ingest_fst_of_no_obstacle
        (ingestionObstacle?_eq_none_iff.mpr ⟨hnonempty, hfits, hsound⟩), hfails]

/-- A batch that is answered with an error changes nothing but the failures to come of the store. -/
theorem ingest_snd_of_error {error : IngestionError}
    (h : (system.ingest limits models).1 = .error error) :
    (system.ingest limits models).2 =
      { system with saveFault := (system.ingest limits models).2.saveFault } := by
  rcases ingest_cases limits system models with ⟨-, fault, hafter⟩ | ⟨haccepted, -⟩
  · rw [hafter]
  · rw [accepts, h] at haccepted
    cases haccepted

/-- Whatever state a batch finds, an error means that nothing of it was done: the models of the
store, the entries of the cache with their order and times of use, the running loads and all
counters are what they were. The batch is empty, or else it is too large, whatever its models are,
or else some model is not sound and the error has the report on all of them, or else the store
failed. -/
theorem ingest_refusal (limits : Limits) (system : System) (models : List Model) :
    (∀ error, (system.ingest limits models).1 = .error error →
      (system.ingest limits models).2 =
        { system with saveFault := (system.ingest limits models).2.saveFault }) ∧
    ((system.ingest limits models).1 = .error .emptyBatch ↔ models = []) ∧
    (∀ size limit, (system.ingest limits models).1 = .error (.batchTooLarge size limit) ↔
      limits.maxModels.toNat < models.length ∧
        size = models.length ∧ limit = limits.maxModels.toNat) ∧
    (∀ report, (system.ingest limits models).1 = .error (.invalidModels report) ↔
      (models.length ≤ limits.maxModels.toNat ∧ ∃ model ∈ models, ¬model.Sound limits) ∧
        report = reportModels limits models) ∧
    ∀ error, (system.ingest limits models).1 = .error (.storage error) ↔
      (models ≠ [] ∧ models.length ≤ limits.maxModels.toNat ∧
        ∀ model ∈ models, model.Sound limits) ∧ system.saveFault.next.1 = some error := by
  refine ⟨fun _ => ingest_snd_of_error, ?_, fun size limit => ?_, fun report => ?_,
    fun error => ?_⟩
  all_goals rw [ingest_fst_eq_error_iff]
  · exact ⟨fun h => by cases h; assumption, .empty⟩
  · constructor
    · intro h
      cases h with
      | large hlarge => exact ⟨hlarge, rfl, rfl⟩
    · rintro ⟨hlarge, rfl, rfl⟩
      exact .large hlarge
  · constructor
    · intro h
      cases h with
      | unsound hfits hunsound => exact ⟨⟨hfits, hunsound⟩, rfl⟩
    · rintro ⟨⟨hfits, hunsound⟩, rfl⟩
      exact .unsound hfits hunsound
  · constructor
    · intro h
      cases h with
      | storage hnonempty hfits hsound hfails => exact ⟨⟨hnonempty, hfits, hsound⟩, hfails⟩
    · rintro ⟨⟨hnonempty, hfits, hsound⟩, hfails⟩
      exact .storage hnonempty hfits hsound hfails

/-- The busy system, whose store fails at the next write. -/
def failingOrders : System :=
  { busyOrders with saveFault := ⟨1, .unavailable "disk full"⟩ }

/-- A sound batch fails to be written, and the running loads go on as if it had not been there. An
empty one, one that is too large for its limits and one with a blank path are refused before. -/
theorem ingest_refusal_failing :
    let after := (failingOrders.ingest {} respelledOrders).2
    (failingOrders.ingest {} respelledOrders).1 = .error (.storage (.unavailable "disk full")) ∧
      after.store = failingOrders.store ∧ after.cache = failingOrders.cache ∧
      (failingOrders.ingest {} []).1 = .error .emptyBatch ∧
      (failingOrders.ingest { maxModels := 3 } respelledOrders).1 = .error (.batchTooLarge 4 3) ∧
      (failingOrders.ingest {} [bareModel "GET" " "]).1 =
        .error (.invalidModels (reportModels {} [bareModel "GET" " "])) := by
  intro after
  have hanswer : (failingOrders.ingest {} respelledOrders).1 =
      .error (.storage (.unavailable "disk full")) := by decide +kernel
  obtain ⟨hatomic, -, -, -, -⟩ := ingest_refusal {} failingOrders respelledOrders
  obtain ⟨-, hempty, -, -, -⟩ := ingest_refusal {} failingOrders []
  obtain ⟨-, -, hlarge, -, -⟩ := ingest_refusal { maxModels := 3 } failingOrders respelledOrders
  obtain ⟨-, -, -, hunsound, -⟩ := ingest_refusal {} failingOrders [bareModel "GET" " "]
  have hafter : after = { failingOrders with saveFault := after.saveFault } := hatomic _ hanswer
  have hblank : ¬(bareModel "GET" " ").Sound {} := fun hsound =>
    absurd hsound.placed (by decide)
  refine ⟨hanswer, by rw [hafter], by rw [hafter], hempty.mpr rfl,
    (hlarge 4 3).mpr (by decide), (hunsound _).mpr ⟨⟨by decide, ?_⟩, rfl⟩⟩
  exact ⟨_, List.mem_singleton_self _, hblank⟩

end System

end ApiDrift
