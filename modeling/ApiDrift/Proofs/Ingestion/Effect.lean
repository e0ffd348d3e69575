import ApiDrift.Proofs.Report.Duplicates
import ApiDrift.Proofs.System.Settled

/-!
# What a batch that is taken in leaves

A batch that is taken in writes the first model of each of its keys to the store, drops these keys
from the cache, and touches nothing else, whatever the state it finds. Its entries are written and
its keys are dropped in no order in particular, and none of the orders makes a difference.
-/

namespace ApiDrift

namespace Cache

/-- The flights that are registered for keys, the one of the last key first. -/
def flightsOf (cache : Cache) (keys : List EndpointKey) : List FlightId :=
  keys.reverse.flatMap fun key => (cache.flight? key).toList

/-- The cache after distinct keys were dropped, all at once. -/
def dropped (cache : Cache) (keys : List EndpointKey) : Cache :=
  { cache with
    entries := cache.entries.filter fun entry => entry.key ∉ keys
    registered := cache.registered.filter fun entry => entry.1 ∉ keys
    detached := cache.flightsOf keys ++ cache.detached
    counters.invalidations := cache.counters.invalidations + keys.length }

variable {cache : Cache} {key : EndpointKey} {keys : List EndpointKey}

/-- A flight is one of those of keys exactly when it is registered for one of them. -/
theorem mem_flightsOf {flight : FlightId} :
    flight ∈ cache.flightsOf keys ↔ ∃ key ∈ keys, cache.flight? key = some flight := by
  simp [flightsOf]

/-- Dropping another key leaves the flights of keys registered. -/
theorem flightsOf_evict (h : key ∉ keys) :
    (cache.evict key).flightsOf keys = cache.flightsOf keys := by
  refine List.flatMap_congr fun other hother => ?_
  have hne : other ≠ key := fun heq => h (heq ▸ List.mem_reverse.mp hother)
  rw [flight?_evict, if_neg hne]

/-- Dropping a key and then others drops all of them. -/
theorem dropped_evict (h : key ∉ keys) :
    (cache.evict key).dropped keys = cache.dropped (key :: keys) := by
  have hentries : (cache.evict key).entries.filter (fun entry => entry.key ∉ keys) =
      cache.entries.filter fun entry => entry.key ∉ key :: keys := by
    refine List.filter_filter.trans (List.filter_congr fun entry _ => ?_)
    by_cases hkey : entry.key = key <;> simp [hkey]
  have hregistered : (cache.evict key).registered.filter (fun entry => entry.1 ∉ keys) =
      cache.registered.filter fun entry => entry.1 ∉ key :: keys := by
    refine List.filter_filter.trans (List.filter_congr fun entry _ => ?_)
    by_cases hkey : entry.1 = key <;> simp [hkey]
  have hdetached : (cache.evict key).flightsOf keys ++ (cache.evict key).detached =
      cache.flightsOf (key :: keys) ++ cache.detached := by
    rw [flightsOf_evict h, evict, flightsOf, flightsOf, List.reverse_cons, List.flatMap_append,
      List.flatMap_singleton, List.append_assoc]
  have hcount : cache.counters.invalidations + 1 + keys.length =
      cache.counters.invalidations + (key :: keys).length := by
    rw [List.length_cons]
    omega
  unfold dropped
  rw [hentries, hregistered, hdetached, ← hcount]
  rfl

/-- The flights of keys that were dropped are not registered any more, and those of other keys
are. -/
theorem flight?_dropped (key : EndpointKey) :
    (cache.dropped keys).flight? key = if key ∈ keys then none else cache.flight? key := by
  refine (lookup_filter cache.registered (· ∉ keys) key).trans ?_
  by_cases hkey : key ∈ keys <;> simp [hkey, flight?]

end Cache

namespace System

/-- Dropping distinct keys one after another drops them all. -/
theorem evictAll_eq_dropped {system : System} {keys : List EndpointKey} (h : keys.Nodup) :
    system.evictAll keys = { system with cache := system.cache.dropped keys } := by
  induction keys generalizing system with
  | nil => simp [evictAll, Cache.dropped, Cache.flightsOf]
  | cons key rest ih =>
    obtain ⟨hkey, hrest⟩ := List.nodup_cons.mp h
    refine (ih hrest).trans ?_
    rw [← Cache.dropped_evict hkey]
    rfl

/-- A batch that is taken in while its entries are written in one order and its keys are dropped in
another one. -/
def ingestInOrder (limits : Limits) (system : System) (models : List Model)
    (written : List (EndpointKey × Model)) (dropped : List EndpointKey) :
    Except IngestionError IngestionSummary × System :=
  match ingestionObstacle? limits models with
  | some error => (.error error, system)
  | none =>
    match system.save written with
    | (.error error, system) => (.error (.storage error), system)
    | (.ok (), system) =>
      (.ok ⟨models.length, dropped.length, models.length - dropped.length⟩, system.evictAll dropped)

section

variable {limits : Limits} {system : System} {models : List Model}

/-- The first models of the keys are written, and their keys dropped, in the order in which the
batch has them. -/
theorem ingest_eq_ingestInOrder :
    system.ingest limits models =
      system.ingestInOrder limits models (firstOfEachKey models)
        ((firstOfEachKey models).map Prod.fst) := by
  rw [ingestInOrder, List.length_map]
  rfl

/-- The order in which a batch is written does not matter. -/
theorem save_perm {batch written : List (EndpointKey × Model)}
    (hkeys : (batch.map Prod.fst).Nodup) (h : written.Perm batch) :
    system.save written = system.save batch := by
  unfold save
  rw [Store.putAll_perm hkeys h]

/-- The order in which keys are dropped matters for no more than the order of the detached
flights. -/
theorem evictAll_perm {keys dropped : List EndpointKey} (hkeys : keys.Nodup)
    (h : dropped.Perm keys) :
    ∃ detached, detached.Perm (system.evictAll keys).cache.detached ∧
      system.evictAll dropped =
        { system.evictAll keys with
          cache := { (system.evictAll keys).cache with detached } } := by
  have hmem : ∀ key, key ∈ dropped ↔ key ∈ keys := fun key => h.mem_iff
  rw [evictAll_eq_dropped hkeys, evictAll_eq_dropped (h.nodup_iff.mpr hkeys)]
  refine ⟨(system.cache.dropped dropped).detached, ?_, ?_⟩
  · refine List.Perm.append_right _ (List.Perm.flatMap_right _ ?_)
    exact (dropped.reverse_perm.trans h).trans keys.reverse_perm.symm
  · unfold Cache.dropped
    simp only [hmem, h.length_eq]

/-- In whatever orders the entries of a batch are written and its keys are dropped, the answer is
the same, and so is the system apart from the order of the detached flights. -/
theorem ingestInOrder_perm {written : List (EndpointKey × Model)} {dropped : List EndpointKey}
    (hwritten : written.Perm (firstOfEachKey models))
    (hdropped : dropped.Perm ((firstOfEachKey models).map Prod.fst)) :
    (system.ingestInOrder limits models written dropped).1 = (system.ingest limits models).1 ∧
      ∃ detached, detached.Perm (system.ingest limits models).2.cache.detached ∧
        (system.ingestInOrder limits models written dropped).2 =
          { (system.ingest limits models).2 with
            cache := { (system.ingest limits models).2.cache with detached } } := by
  rw [ingest_eq_ingestInOrder]
  unfold ingestInOrder
  rw [save_perm (nodup_firstOfEachKey models) hwritten, hdropped.length_eq]
  cases ingestionObstacle? limits models with
  | some error => exact ⟨rfl, _, .refl _, rfl⟩
  | none =>
    rcases system.save (firstOfEachKey models) with ⟨error | _, saved⟩
    · exact ⟨rfl, _, .refl _, rfl⟩
    · exact ⟨rfl, evictAll_perm (nodup_firstOfEachKey models) hdropped⟩

/-- A list of entries of distinct keys, each with the first model of the batch that has it, lists
what is stored of the batch. -/
theorem perm_firstOfEachKey {written : List (EndpointKey × Model)}
    (hkeys : (written.map Prod.fst).Nodup)
    (h : ∀ key model, (key, model) ∈ written ↔
      (models.find? fun model => model.key == key) = some model) :
    written.Perm (firstOfEachKey models) := by
  rw [List.perm_ext_iff_of_nodup hkeys.of_map (nodup_firstOfEachKey models).of_map]
  rintro ⟨key, model⟩
  rw [h, mem_firstOfEachKey]

/-- A list of the distinct keys of a batch lists the keys of what is stored of it. -/
theorem perm_keys_firstOfEachKey {dropped : List EndpointKey} (hkeys : dropped.Nodup)
    (h : ∀ key, key ∈ dropped ↔ key ∈ models.map Model.key) :
    dropped.Perm ((firstOfEachKey models).map Prod.fst) := by
  rw [List.perm_ext_iff_of_nodup hkeys (nodup_firstOfEachKey models)]
  intro key
  rw [h, mem_keys_firstOfEachKey]

/-- What a batch that is taken in leaves of a system. -/
structure TakenIn (before : System) (models : List Model) (after : System) : Prop where
  /-- A key of the batch has the first model of the batch with that key, and every other key keeps
  its model. -/
  stored : ∀ key, after.store.find? key =
    (models.find? fun model => model.key == key).or (before.store.find? key)
  /-- The entries of the keys of the batch are gone. The others are as they were, and in the same
  order of use. -/
  entries : after.cache.entries =
    before.cache.entries.filter fun entry => entry.key ∉ models.map Model.key
  /-- The running loads of other keys stay registered, those of the keys of the batch do not. -/
  registered : ∀ key, after.cache.flight? key =
    if key ∈ models.map Model.key then none else before.cache.flight? key
  /-- The running loads of the keys of the batch are detached. -/
  detached : ∀ flight, flight ∈ after.cache.detached ↔
    (∃ key ∈ models.map Model.key, before.cache.flight? key = some flight) ∨
      flight ∈ before.cache.detached
  /-- Nothing is counted but that each key of the batch was dropped once. -/
  counters : after.cache.counters =
    { before.cache.counters with
      invalidations := before.cache.counters.invalidations + (models.map Model.key).dedup.length }
  /-- Nothing is looked up. -/
  lookups : after.lookups = before.lookups
  /-- No time passes. -/
  now : after.now = before.now

/-- The counts of a batch that is taken in. -/
theorem summary_of_ingest {summary : IngestionSummary}
    (h : (system.ingest limits models).1 = .ok summary) :
    summary = ⟨models.length, (firstOfEachKey models).length,
      models.length - (firstOfEachKey models).length⟩ := by
  unfold ingest at h
  cases hobstacle : ingestionObstacle? limits models with
  | some error =>
    rw [hobstacle] at h
    cases h
  | none =>
    rw [hobstacle] at h
    dsimp only at h
    rcases hsave : system.save (firstOfEachKey models) with ⟨error | _, saved⟩
    · rw [hsave] at h
      cases h
    · rw [hsave] at h
      exact (Except.ok.inj h).symm

/-- A batch that is accepted leaves what it should. -/
theorem takenIn_of_accepts (h : system.accepts limits models = true) :
    system.TakenIn models (system.ingest limits models).2 := by
  have hstored := fun key => find?_ingest limits system models key
  rw [h] at hstored
  rcases ingest_cases limits system models with ⟨hrejected, -⟩ | ⟨-, -, fault, hafter⟩
  · rw [hrejected] at h
    cases h
  · rw [evictAll_eq_dropped (nodup_firstOfEachKey models)] at hafter
    rw [hafter] at hstored ⊢
    refine ⟨fun key => hstored key, ?_, fun key => ?_, fun flight => ?_, ?_, rfl, rfl⟩
    · simp only [Cache.dropped, mem_keys_firstOfEachKey]
    · rw [Cache.flight?_dropped]
      simp only [mem_keys_firstOfEachKey]
    · refine List.mem_append.trans (or_congr_left ?_)
      rw [Cache.mem_flightsOf]
      simp only [mem_keys_firstOfEachKey]
    · rw [← length_firstOfEachKey, ← List.length_map Prod.fst]
      rfl

/-- Whatever state a batch finds that is taken in, the first model of each of its keys is stored,
these keys are dropped from the cache, and all else stays. Its models are counted as the stored ones
and the duplicates, and the report warns of each duplicate once, in order, and names the first model
of the key. The entries of the batch may be written and its keys dropped in any order, with no
difference but in the order in which the detached loads are listed. -/
theorem ingest_effect {summary : IngestionSummary}
    (h : (system.ingest limits models).1 = .ok summary) :
    system.TakenIn models (system.ingest limits models).2 ∧
    (summary.received = models.length ∧
      summary.stored = (models.map Model.key).dedup.length ∧
      summary.duplicates + summary.stored = summary.received) ∧
    (∃ repeats : List (Nat × Nat × EndpointKey),
      repeats.length = summary.duplicates ∧
      repeats.Pairwise (fun a b => a.1 < b.1) ∧
      (∀ index first key, (index, first, key) ∈ repeats ↔ RepeatsFirst models index first key) ∧
      List.Forall₂ (fun entry warning => warning.Tells entry.1 entry.2.1 entry.2.2) repeats
        (reportModels limits models).warnings) ∧
    ∀ (written : List (EndpointKey × Model)) (dropped : List EndpointKey),
      (written.map Prod.fst).Nodup →
      (∀ key model, (key, model) ∈ written ↔
        (models.find? fun model => model.key == key) = some model) →
      dropped.Nodup → (∀ key, key ∈ dropped ↔ key ∈ models.map Model.key) →
        (system.ingestInOrder limits models written dropped).1 = .ok summary ∧
        ∃ detached, detached.Perm (system.ingest limits models).2.cache.detached ∧
          (system.ingestInOrder limits models written dropped).2 =
            { (system.ingest limits models).2 with
              cache := { (system.ingest limits models).2.cache with detached } } := by
  have haccepts : system.accepts limits models = true := by
    rw [accepts, h]
    rfl
  have hsummary := summary_of_ingest h
  have hcounts := length_duplicates_add models
  refine ⟨takenIn_of_accepts haccepts, ⟨?_, ?_, ?_⟩,
    ⟨duplicates models, ?_, pairwise_duplicates models, fun _ _ _ => mem_duplicates,
      forall₂_warnings limits models⟩, ?_⟩
  · rw [hsummary]
  · rw [hsummary, length_firstOfEachKey]
  · rw [hsummary]
    dsimp only
    omega
  · rw [hsummary]
    dsimp only
    omega
  · intro written dropped hwritten hentries hdropped hkeys
    rw [← h]
    exact ingestInOrder_perm (perm_firstOfEachKey hwritten hentries)
      (perm_keys_firstOfEachKey hdropped hkeys)

end

/-- A model without parameters. -/
def bareModel (method path : String) : Model := ⟨path, method, [], [], []⟩

/-- A system that has models of orders and users, with entries of three keys and two running
loads. -/
def busyOrders : System :=
  { new {} with
    store := (Store.empty.put ⟨"GET:/orders"⟩ (bareModel "GET" "/orders")).put ⟨"GET:/users"⟩
      (bareModel "GET" "/users")
    cache :=
      { Cache.new 4 1000 with
        entries := [⟨⟨"GET:/users"⟩, some (bareModel "GET" "/users"), 9⟩,
          ⟨⟨"GET:/orders"⟩, some (bareModel "GET" "/orders"), 7⟩, ⟨⟨"GET:/carts"⟩, none, 2⟩]
        registered := [(⟨"PUT:/orders"⟩, 5), (⟨"PUT:/users"⟩, 4)]
        nextFlight := 6 }
    now := 10 }

/-- A batch with two keys, which two of its models repeat in other spellings. -/
def respelledOrders : List Model :=
  [bareModel " get" "/orders", bareModel "Put" "/orders", bareModel "GET" "/orders",
    bareModel "put\t" "/orders"]

/-- The first spellings are stored, and nothing of the users and the carts is lost. -/
theorem ingest_effect_respelled :
    let after := (busyOrders.ingest {} respelledOrders).2
    (busyOrders.ingest {} respelledOrders).1 = .ok ⟨4, 2, 2⟩ ∧
      after.store.find? ⟨"GET:/orders"⟩ = some (bareModel " get" "/orders") ∧
      after.store.find? ⟨"GET:/users"⟩ = some (bareModel "GET" "/users") ∧
      after.cache.entries = [⟨⟨"GET:/users"⟩, some (bareModel "GET" "/users"), 9⟩,
        ⟨⟨"GET:/carts"⟩, none, 2⟩] ∧
      after.cache.flight? ⟨"PUT:/orders"⟩ = none ∧
      after.cache.flight? ⟨"PUT:/users"⟩ = some 4 ∧
      (reportModels {} respelledOrders).warnings.length = 2 ∧
      (∃ warning ∈ (reportModels {} respelledOrders).warnings,
        warning.path = "models[3]" ∧ warning.message =
          "duplicate of models[1] (PUT:/orders), only the first occurrence is kept") ∧
      (busyOrders.ingestInOrder {} respelledOrders (firstOfEachKey respelledOrders).reverse
        [⟨"GET:/orders"⟩, ⟨"PUT:/orders"⟩]).1 = .ok ⟨4, 2, 2⟩ := by
  intro after
  have hanswer : (busyOrders.ingest {} respelledOrders).1 = .ok ⟨4, 2, 2⟩ := by decide +kernel
  obtain ⟨htaken, -, ⟨repeats, hrepeats, -, hmem, hwarnings⟩, horder⟩ := ingest_effect hanswer
  refine ⟨hanswer, ?_, ?_, ?_, ?_, ?_, ?_, ?_, ?_⟩
  · rw [htaken.stored]
    decide +kernel
  · rw [htaken.stored]
    decide +kernel
  · rw [htaken.entries]
    decide +kernel
  · rw [htaken.registered]
    decide +kernel
  · rw [htaken.registered]
    decide +kernel
  · rw [← hwarnings.length_eq, hrepeats]
  · have hrepeated : RepeatsFirst respelledOrders 3 1 ⟨"PUT:/orders"⟩ :=
      ⟨by decide, by decide +kernel, by decide +kernel, by decide +kernel⟩
    obtain ⟨⟨place, hplace⟩, hentry⟩ := List.mem_iff_get.mp ((hmem _ _ _).mpr hrepeated)
    have htells := hwarnings.get hplace (hwarnings.length_eq ▸ hplace)
    rw [hentry] at htells
    exact ⟨_, List.get_mem _ _, htells.path.trans (by decide +kernel),
      htells.message.trans (by decide +kernel)⟩
  · have hwritten := (firstOfEachKey respelledOrders).reverse_perm
    have hkeys : (firstOfEachKey respelledOrders).map Prod.fst =
        [⟨"GET:/orders"⟩, ⟨"PUT:/orders"⟩] := by decide +kernel
    refine (horder _ _ ((hwritten.map Prod.fst).nodup_iff.mpr (nodup_firstOfEachKey _))
      (fun key model => hwritten.mem_iff.trans mem_firstOfEachKey) ?_ fun key => ?_).1
    · rw [← hkeys]
      exact nodup_firstOfEachKey respelledOrders
    · rw [← hkeys]
      exact mem_keys_firstOfEachKey

end System

end ApiDrift
