import ApiDrift.Dictionary
import ApiDrift.Model

/-!
# The store of learned models

The store keeps one model for each key. Whoever uses a store has to expect that it fails.
-/

namespace ApiDrift

/-- Why a store or the cache in front of it has no answer. -/
inductive StoreError where
  /-- The store cannot be reached. -/
  | unavailable (cause : String)
  /-- The load that was waited for ended without a result. -/
  | loadAbandoned (key : String)
  /-- Anything else. -/
  | other (cause : String)
  deriving DecidableEq, Repr

/-- The message of a failure. -/
def StoreError.message : StoreError → String
  | .unavailable cause => "store unavailable: " ++ cause
  | .loadAbandoned key => "schema load for '" ++ key ++ "' was abandoned"
  | .other cause => cause

/-- The learned models by their keys. -/
structure Store where
  /-- The models under the texts of their keys. -/
  models : Dictionary Model

namespace Store

/-- The store without models. -/
def empty : Store := ⟨Dictionary.empty⟩

/-- The model of a key. -/
def find? (store : Store) (key : EndpointKey) : Option Model :=
  store.models.get? key.text

/-- The store with a model under a key. -/
def put (store : Store) (key : EndpointKey) (model : Model) : Store :=
  ⟨store.models.insert key.text model⟩

/-- The store with all models of a batch, of which a later one of a key replaces an earlier one. -/
def putAll (store : Store) (batch : List (EndpointKey × Model)) : Store :=
  batch.foldl (fun store entry => store.put entry.1 entry.2) store

/-- How many models the store has. -/
def size (store : Store) : Nat :=
  store.models.size

/-- A model is found under the key that it was put under, and no other key changes. -/
theorem find?_put (store : Store) (key other : EndpointKey) (model : Model) :
    (store.put key model).find? other = if other = key then some model else store.find? other := by
  cases key
  cases other
  simp [put, find?]

end Store

end ApiDrift
