import ApiDrift.Report.ModelRules
import ApiDrift.System

/-!
# Taking in models

A batch of models is taken in as a whole or not at all. It has to be neither empty nor too large
and must not break a rule. Of several models of one key the first is stored, and every stored key
is dropped from the cache.
-/

namespace ApiDrift

/-- Why a batch is not taken in. -/
inductive IngestionError where
  /-- The batch is empty. -/
  | emptyBatch
  /-- The batch has too many models. -/
  | batchTooLarge (size limit : Nat)
  /-- Some model breaks a rule. -/
  | invalidModels (report : Report)
  /-- The store failed. -/
  | storage (error : StoreError)
  deriving DecidableEq

/-- The message of a failure. -/
def IngestionError.message : IngestionError → String
  | .emptyBatch => "Received list size: 0"
  | .batchTooLarge size limit =>
    "Batch size " ++ toString size ++ " exceeds the maximum allowed limit of " ++ toString limit
  | .invalidModels report => report.summary
  | .storage error => "failed to store models: " ++ error.message

/-- The counts of a batch that was taken in. -/
structure IngestionSummary where
  /-- How many models the batch has. -/
  received : Nat
  /-- How many of them were stored. -/
  stored : Nat
  /-- How many have the key of an earlier one. -/
  duplicates : Nat
  deriving DecidableEq

/-- The models of a batch under their keys, the first of each key. -/
def firstOfEachKey (models : List Model) : List (EndpointKey × Model) :=
  (models.foldl (fun batch model =>
    if batch.any (fun entry => entry.1 == model.key) then batch
    else (model.key, model) :: batch) []).reverse

/-- The failure of a batch that cannot be taken in, if it has one. -/
def ingestionObstacle? (limits : Limits) (models : List Model) : Option IngestionError :=
  if models.isEmpty then some .emptyBatch
  else if limits.maxModels.toNat < models.length then
    some (.batchTooLarge models.length limits.maxModels.toNat)
  else
    let report := reportModels limits models
    if report.valid then none else some (.invalidModels report)

/-- The system after every key of a batch was dropped. -/
def System.evictAll (system : System) (keys : List EndpointKey) : System :=
  keys.foldl System.evict system

/-- The system after a batch of models. -/
def System.ingest (limits : Limits) (system : System) (models : List Model) :
    Except IngestionError IngestionSummary × System :=
  match ingestionObstacle? limits models with
  | some error => (.error error, system)
  | none =>
    let batch := firstOfEachKey models
    match system.save batch with
    | (.error error, system) => (.error (.storage error), system)
    | (.ok (), system) =>
      (.ok ⟨models.length, batch.length, models.length - batch.length⟩,
        system.evictAll (batch.map Prod.fst))

end ApiDrift
