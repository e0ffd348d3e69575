import ApiDrift.Proofs.System.Settled

/-!
# Answers as a function of the batches taken in

Operations are served one after another from the system without models. What detection answers
then depends on nothing but the batches that were taken in so far: of the last one that has the key
of the request, its first model of the key. Capacity, freshness, dropped keys, failed writes and
rejected batches leave no trace in an answer.
-/

namespace ApiDrift

/-- The operations that are served one after another. -/
inductive Operation where
  /-- A batch of models is taken in. -/
  | ingest (models : List Model)
  /-- The anomalies of a request are asked for. -/
  | detect (request : Request)
  /-- A key is dropped from the cache. -/
  | evict (key : EndpointKey)
  /-- So many milliseconds pass. -/
  | advance (milliseconds : Nat)
  /-- The next lookups in the store are set to fail. -/
  | failLookups (fault : Fault)
  /-- The next writes to the store are set to fail. -/
  | failSaves (fault : Fault)

/-- The model of a key by a list of batches: the first one of the key in the last batch that has
the key. -/
def latest? (batches : List (List Model)) (key : EndpointKey) : Option Model :=
  batches.reverse.findSome? fun models => models.find? fun model => model.key == key

/-- No batch has a model. -/
@[simp] theorem latest?_nil (key : EndpointKey) : latest? [] key = none := rfl

/-- Later batches come before earlier ones. -/
theorem latest?_append (first second : List (List Model)) (key : EndpointKey) :
    latest? (first ++ second) key = (latest? second key).or (latest? first key) := by
  unfold latest?
  rw [List.reverse_append, List.findSome?_append]

/-- The model of a key by a single batch. -/
theorem latest?_singleton (models : List Model) (key : EndpointKey) :
    latest? [models] key = models.find? fun model => model.key == key := by
  simp [latest?]

/-- Nothing fails when no failure is to come. -/
theorem Fault.next_of_remaining {fault : Fault} (h : fault.remaining = 0) :
    fault.next = (.none, fault) := by
  unfold Fault.next
  rw [h]

/-- The latest model of a key is in one of the batches and has that key. -/
theorem exists_mem_of_latest? {batches : List (List Model)} {key : EndpointKey} {model : Model}
    (h : latest? batches key = some model) : ∃ models ∈ batches, model ∈ models ∧ model.key = key := by
  obtain ⟨models, hmodels, hfind⟩ := List.exists_of_findSome?_eq_some h
  refine ⟨models, List.mem_reverse.mp hmodels, List.mem_of_find?_eq_some hfind, ?_⟩
  simpa using List.find?_some hfind

namespace System

/-- The system after an operation. -/
def serve (limits : Limits) (detection : DetectionSettings) (system : System) :
    Operation → System
  | .ingest models => (system.ingest limits models).2
  | .detect request => (system.detect detection request).2
  | .evict key => system.evict key
  | .advance milliseconds => system.advance milliseconds
  | .failLookups fault => { system with lookupFault := fault }
  | .failSaves fault => { system with saveFault := fault }

/-- The system after operations. -/
def serveAll (limits : Limits) (detection : DetectionSettings) (system : System)
    (operations : List Operation) : System :=
  operations.foldl (serve limits detection) system

/-- The batch that an operation takes in. -/
def taken (limits : Limits) (system : System) : Operation → List (List Model)
  | .ingest models => if system.accepts limits models then [models] else []
  | _ => []

@[simp] theorem taken_ingest (limits : Limits) (system : System) (models : List Model) :
    system.taken limits (.ingest models) =
      if system.accepts limits models then [models] else [] := rfl

/-- The batches that operations take in, in order. -/
def takenAll (limits : Limits) (detection : DetectionSettings) :
    System → List Operation → List (List Model)
  | _, [] => []
  | system, operation :: rest =>
    system.taken limits operation ++
      takenAll limits detection (system.serve limits detection operation) rest

section

variable {limits : Limits} {detection : DetectionSettings} {system : System}

/-- A request is valid when its method and its path are not blank. -/
theorem reportRequest_valid_iff {request : Request} :
    (reportRequest request).valid = true ↔
      Text.hasText request.method = true ∧ Text.hasText request.path = true := by
  unfold reportRequest blankError Report.of
  cases Text.hasText request.method <;> cases Text.hasText request.path <;> simp

/-- Detection leaves a settled system settled, and the store as it was. -/
theorem Settled.detect (h : system.Settled) (request : Request) :
    (system.detect detection request).2.Settled ∧
      (system.detect detection request).2.store = system.store := by
  unfold System.detect
  dsimp only
  split
  · obtain ⟨hsettled, hstore, -⟩ := h.get_cases request.key
    exact ⟨hsettled, hstore⟩
  · exact ⟨h, rfl⟩

/-- Every operation leaves a settled system settled. -/
theorem Settled.serve (h : system.Settled) (operation : Operation) :
    (system.serve limits detection operation).Settled := by
  cases operation with
  | ingest models => exact h.ingest limits models
  | detect request => exact (h.detect request).1
  | evict key => exact h.evict key
  | advance milliseconds => exact h.of_views h.quiet (fun _ _ hheld => hheld) rfl
  | failLookups fault => exact h.of_views h.quiet (fun _ _ hheld => hheld) rfl
  | failSaves fault => exact h.of_views h.quiet (fun _ _ hheld => hheld) rfl

/-- What the store has of a key after an operation: the model of the key by the batch that is taken
in, or what was there. -/
theorem Settled.find?_serve (h : system.Settled) (operation : Operation) (key : EndpointKey) :
    (system.serve limits detection operation).store.find? key =
      (latest? (system.taken limits operation) key).or (system.store.find? key) := by
  cases operation with
  | ingest models =>
    refine (find?_ingest limits system models key).trans ?_
    rw [taken_ingest]
    split
    · rw [latest?_singleton]
    · rfl
  | detect request => exact congrArg (Store.find? · key) (h.detect request).2
  | evict key => rfl
  | advance milliseconds => rfl
  | failLookups fault => rfl
  | failSaves fault => rfl

/-- Operations leave a settled system settled, and the store has of each key its model by the
batches that they take in, or what was there. -/
theorem Settled.serveAll (h : system.Settled) (operations : List Operation) :
    (system.serveAll limits detection operations).Settled ∧
      ∀ key, (system.serveAll limits detection operations).store.find? key =
        (latest? (system.takenAll limits detection operations) key).or (system.store.find? key) := by
  induction operations generalizing system with
  | nil => exact ⟨h, fun key => rfl⟩
  | cons operation rest ih =>
    have hserve : (system.serve limits detection operation).Settled := h.serve operation
    obtain ⟨hsettled, hstore⟩ := ih hserve
    refine ⟨hsettled, fun key => (hstore key).trans ?_⟩
    rw [h.find?_serve operation key, takenAll, latest?_append, Option.or_assoc]

/-- From the system without models on, the store has of each key its model by the batches that were
taken in. -/
theorem find?_serveAll_new (settings : CacheSettings) (operations : List Operation)
    (key : EndpointKey) :
    ((new settings).serveAll limits detection operations).store.find? key =
      latest? ((new settings).takenAll limits detection operations) key := by
  obtain ⟨-, hstore⟩ := (settled_new settings).serveAll operations
  exact (hstore key).trans Option.or_none

/-- A batch that is taken in passes the checks. -/
theorem ingestionObstacle?_of_mem_takenAll {operations : List Operation} {models : List Model}
    (h : models ∈ system.takenAll limits detection operations) :
    ingestionObstacle? limits models = none := by
  induction operations generalizing system with
  | nil => cases h
  | cons operation rest ih =>
    rcases List.mem_append.mp h with htaken | hrest
    · cases operation with
      | ingest batch =>
        rw [taken_ingest] at htaken
        rcases ingest_cases limits system batch with ⟨hrejected, -⟩ | ⟨haccepted, hpasses, -⟩
        · rw [hrejected] at htaken
          cases htaken
        · rw [haccepted, if_pos rfl, List.mem_singleton] at htaken
          rw [htaken]
          exact hpasses
      | _ => cases htaken
    · exact ih hrest

/-- No lookup fails after a request for a key if none was set to fail before it. -/
theorem get_remaining (h : system.lookupFault.remaining = 0) (key : EndpointKey) :
    (system.get key).2.lookupFault.remaining = 0 := by
  have haccess : (system.access key).2.lookupFault = system.lookupFault := rfl
  unfold get
  split
  · next model after heq =>
    rw [heq] at haccess
    rw [haccess, h]
  · next flight after heq =>
    rw [heq] at haccess
    rw [haccess, h]
  · next flight after heq =>
    rw [heq] at haccess
    have hfinish : ((after.load key).2.finish key flight (after.load key).1).lookupFault =
        system.lookupFault.next.2 := by rw [← haccess]; rfl
    dsimp only
    rw [hfinish, Fault.next_of_remaining h, h]

/-- No lookup fails after an operation that sets none to fail, if none did before it. -/
theorem serve_remaining (h : system.lookupFault.remaining = 0) {operation : Operation}
    (hfault : ∀ fault, operation ≠ .failLookups fault) :
    (system.serve limits detection operation).lookupFault.remaining = 0 := by
  cases operation with
  | ingest models =>
    unfold serve
    dsimp only
    rcases ingest_cases limits system models with ⟨-, fault, hafter⟩ | ⟨-, -, fault, hafter⟩
    · rw [hafter]
      exact h
    · rw [hafter, evictAll_lookupFault]
      exact h
  | detect request =>
    unfold serve System.detect
    dsimp only
    split
    · exact get_remaining h request.key
    · exact h
  | evict key => exact h
  | advance milliseconds => exact h
  | failLookups fault => exact absurd rfl (hfault fault)
  | failSaves fault => exact h

/-- No lookup fails after operations that set none to fail. -/
theorem lookupFailure?_serveAll {operations : List Operation}
    (h : system.lookupFault.remaining = 0)
    (hfault : ∀ fault, .failLookups fault ∉ operations) (key : EndpointKey) :
    (system.serveAll limits detection operations).lookupFailure? key = none := by
  induction operations generalizing system with
  | nil =>
    have hnext : system.lookupFault.next.1 = none := by rw [Fault.next_of_remaining h]
    unfold lookupFailure?
    exact (ite_congr rfl (fun _ => hnext) fun _ => rfl).trans (ite_self none)
  | cons operation rest ih =>
    refine ih (serve_remaining h fun fault heq => ?_) fun fault hmem => ?_
    · exact hfault fault (heq ▸ List.mem_cons_self)
    · exact hfault fault (List.mem_cons_of_mem _ hmem)

/-- Detection in a settled system answers from the store, unless its own lookup there fails. -/
theorem Settled.detect_fst (h : system.Settled) {request : Request}
    (hvalid : (reportRequest request).valid = true) :
    (system.detect detection request).1 =
      judge detection request
        (match system.lookupFailure? request.key with
          | some error => .error error
          | none => .ok (system.store.find? request.key)) := by
  unfold System.detect
  dsimp only
  rw [if_pos hvalid]
  exact congrArg (judge detection request) (h.get_fst request.key)

/-- A model of orders that requires an identity. -/
def orders : Model := ⟨"/orders", "GET", [⟨"id", ["Int"], true⟩], [], []⟩

/-- A request for orders without an identity. -/
def anonymousOrder : Request := ⟨" get ", "/orders", ∅, ∅, ∅⟩

/-- An absence is cached before orders are learned, and a write that would replace them fails. -/
def unsettledOrders : List Operation :=
  [.detect anonymousOrder, .ingest [orders, { orders with queryParams := [] }],
    .failSaves ⟨1, .other "disk full"⟩, .ingest [{ orders with queryParams := [] }],
    .advance 10, .evict ⟨"GET:/users"⟩]

end

end System

end ApiDrift
