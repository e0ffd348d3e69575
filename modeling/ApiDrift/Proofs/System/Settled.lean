import ApiDrift.Detection
import ApiDrift.Proofs.Cache.Views
import ApiDrift.Proofs.Store.Batch

/-!
# Systems that serve one request after another

Between two requests no flight is registered and the cache agrees with the store on every key that
it holds. Such a system answers a request for a key with what the store has, whether the cache
answers or the store does. Only a lookup in the store that fails makes a difference.
-/

namespace ApiDrift.System

/-- Nobody is loading a model, and what the cache holds of a key is what the store has. -/
structure Settled (system : System) : Prop where
  /-- No flight is registered. -/
  quiet : ∀ key, system.cache.flight? key = none
  /-- The cache agrees with the store. -/
  faithful : ∀ key model, system.cache.Holds key model → model = system.store.find? key

/-- Whether a request for a key looks it up in the store. -/
def looksUp (system : System) (key : EndpointKey) : Bool :=
  (system.get key).2.lookups != system.lookups

/-- How the lookup in the store fails that a request for a key makes, if it makes one. -/
def lookupFailure? (system : System) (key : EndpointKey) : Option StoreError :=
  if system.looksUp key then system.lookupFault.next.1 else none

/-- The new system is settled. -/
theorem settled_new (settings : CacheSettings) : (new settings).Settled where
  quiet _ := rfl
  faithful key model h := absurd h (Cache.not_holds_new _ _ key model)

/-- Only the flights and the entries of the cache and the models of the store matter. -/
theorem Settled.of_views {system after : System} (h : system.Settled)
    (hflights : ∀ key, after.cache.flight? key = none)
    (hholds : ∀ key model, after.cache.Holds key model → system.cache.Holds key model)
    (hstore : after.store = system.store) : after.Settled where
  quiet := hflights
  faithful key model hheld := by
    rw [hstore]
    exact h.faithful key model (hholds key model hheld)

/-- What an access of a settled system does: it answers from the cache, or it registers a flight
for its key and nothing else. In both cases it holds nothing that was not held before. -/
theorem Settled.access_cases {system : System} (h : system.Settled) (key : EndpointKey) :
    (∃ model after, system.access key = (.hit model, { system with cache := after }) ∧
      system.cache.Holds key model ∧ (∀ other, after.flight? other = none) ∧
      ∀ other found, after.Holds other found → system.cache.Holds other found) ∨
    (∃ flight after, system.access key = (.leads flight, { system with cache := after }) ∧
      (∀ other, after.flight? other = if other = key then some flight else none) ∧
      ∀ other found, after.Holds other found → system.cache.Holds other found) := by
  unfold access Cache.access
  have hsame := Cache.sameFlights_firstLookup system.cache system.now key
  have hquiet : ∀ other, (system.cache.firstLookup system.now key).2.flight? other = none :=
    fun other => (hsame.flight?_eq other).trans (h.quiet other)
  have hheld : ∀ other found, (system.cache.firstLookup system.now key).2.Holds other found →
      system.cache.Holds other found :=
    fun _ _ => Cache.holds_of_holds_firstLookup
  have hhit : ∀ model, (system.cache.firstLookup system.now key).1 = some model →
      system.cache.Holds key model :=
    fun _ => Cache.holds_of_firstLookup_eq_some
  generalize system.cache.firstLookup system.now key = first at hquiet hheld hhit
  obtain ⟨answer, looked⟩ := first
  cases answer with
  | some model => exact .inl ⟨model, looked, rfl, hhit model rfl, hquiet, hheld⟩
  | none =>
    dsimp only at hquiet hheld ⊢
    have hboarded : ∀ other found, (looked.board system.now key).2.Holds other found →
        system.cache.Holds other found :=
      fun other found hfound => hheld other found (Cache.holds_of_holds_board hfound)
    rcases Cache.board_cases looked system.now key with
      ⟨model, hboard, hfound, hflights⟩ | ⟨flight, -, hjoin, -⟩ | ⟨hboard, -, hregistered, -⟩
    · refine .inl ⟨model, (looked.board system.now key).2, by rw [← hboard], hheld key model hfound,
        fun other => ?_, hboarded⟩
      exact (hflights.flight?_eq other).trans (hquiet other)
    · rw [hquiet key] at hjoin
      cases hjoin
    · refine .inr ⟨looked.nextFlight, (looked.board system.now key).2, by rw [← hboard],
        fun other => ?_, hboarded⟩
      rw [Cache.flight?_of_registered hregistered, hquiet other]

/-- The outcome of a lookup in the store. -/
theorem load_fst (system : System) (key : EndpointKey) :
    (system.load key).1 =
      match system.lookupFault.next.1 with
      | some error => .error error
      | none => .ok (system.store.find? key) := rfl

/-- What a request for a key of a settled system does: it is answered from the cache with what the
store has, and makes no lookup, or it makes one lookup and is answered with its outcome. -/
theorem Settled.get_cases {system : System} (h : system.Settled) (key : EndpointKey) :
    (system.get key).2.Settled ∧ (system.get key).2.store = system.store ∧
      (((system.get key).1 = .ok (system.store.find? key) ∧
          (system.get key).2.lookups = system.lookups) ∨
        ((system.get key).1 = (system.load key).1 ∧
          (system.get key).2.lookups = system.lookups + 1)) := by
  unfold get
  rcases h.access_cases key with
    ⟨model, after, haccess, hfound, hquiet, hheld⟩ | ⟨flight, after, haccess, hflights, hheld⟩
  · rw [haccess]
    refine ⟨h.of_views hquiet hheld rfl, rfl, .inl ⟨?_, rfl⟩⟩
    exact congrArg Except.ok (h.faithful key model hfound)
  · rw [haccess]
    refine ⟨⟨fun other => ?_, fun other found hfinish => ?_⟩, rfl, .inr ⟨rfl, rfl⟩⟩
    · have hflights' : ∀ key, after.countLoad.flight? key = after.flight? key := fun _ => rfl
      have hfinish := Cache.flight?_finish after.countLoad system.now key other flight
        (system.load key).1
      rw [hflights', hflights', hflights, hflights] at hfinish
      refine hfinish.trans ?_
      by_cases hother : other = key <;> simp [hother]
    · rcases Cache.holds_of_holds_finish hfinish with ⟨rfl, hloaded, -⟩ | hbefore
      · have hloaded : (system.load other).1 = .ok found := hloaded
        rw [load_fst] at hloaded
        split at hloaded
        · cases hloaded
        · exact (Except.ok.inj hloaded).symm
      · exact h.faithful other found (hheld other found hbefore)

/-- A request for a key of a settled system is answered with what the store has, unless its own
lookup in the store fails. -/
theorem Settled.get_fst {system : System} (h : system.Settled) (key : EndpointKey) :
    (system.get key).1 =
      match system.lookupFailure? key with
      | some error => .error error
      | none => .ok (system.store.find? key) := by
  unfold lookupFailure? looksUp
  obtain ⟨-, -, ⟨hanswer, hlookups⟩ | ⟨hanswer, hlookups⟩⟩ := h.get_cases key
  · rw [hanswer, hlookups]
    simp
  · rw [hanswer, hlookups, load_fst]
    simp

/-- A settled system stays settled when a key is dropped. -/
theorem Settled.evict {system : System} (h : system.Settled) (key : EndpointKey) :
    (system.evict key).Settled := by
  refine h.of_views (fun other => ?_) (fun other model hheld => ?_) rfl
  · have hevict := Cache.flight?_evict system.cache key other
    rw [h.quiet other, ite_self] at hevict
    exact hevict
  · exact ((Cache.holds_evict system.cache key other model).mp hheld).2

/-- Dropping keys changes nothing in the store. -/
theorem evictAll_store (system : System) (keys : List EndpointKey) :
    (system.evictAll keys).store = system.store := by
  induction keys generalizing system with
  | nil => rfl
  | cons key rest ih => exact ih (system.evict key)

/-- Dropping keys makes no lookup fail. -/
theorem evictAll_lookupFault (system : System) (keys : List EndpointKey) :
    (system.evictAll keys).lookupFault = system.lookupFault := by
  induction keys generalizing system with
  | nil => rfl
  | cons key rest ih => exact ih (system.evict key)

/-- Dropping keys registers no flight. -/
theorem flight?_evictAll (system : System) (h : ∀ key, system.cache.flight? key = none)
    (keys : List EndpointKey) (key : EndpointKey) :
    (system.evictAll keys).cache.flight? key = none := by
  induction keys generalizing system with
  | nil => exact h key
  | cons first rest ih =>
    refine ih (system.evict first) fun other => ?_
    have hevict := Cache.flight?_evict system.cache first other
    rw [h other, ite_self] at hevict
    exact hevict

/-- What is held after keys were dropped was held before and is of none of them. -/
theorem holds_of_holds_evictAll (system : System) {keys : List EndpointKey} {key : EndpointKey}
    {model : CachedModel} (h : (system.evictAll keys).cache.Holds key model) :
    key ∉ keys ∧ system.cache.Holds key model := by
  induction keys generalizing system with
  | nil => exact ⟨List.not_mem_nil, h⟩
  | cons first rest ih =>
    obtain ⟨hrest, hheld⟩ := ih (system.evict first) h
    obtain ⟨hfirst, hheld⟩ := (Cache.holds_evict system.cache first key model).mp hheld
    refine ⟨?_, hheld⟩
    rw [List.mem_cons, not_or]
    exact ⟨hfirst, hrest⟩

/-- Whether a batch is taken in. -/
def accepts (limits : Limits) (system : System) (models : List Model) : Bool :=
  (system.ingest limits models).1.isOk

/-- What taking in a batch does. A batch that is not accepted changes nothing but how later writes
fail. One that is accepted passes the checks, is written to the store, and its keys are dropped. -/
theorem ingest_cases (limits : Limits) (system : System) (models : List Model) :
    (system.accepts limits models = false ∧
      ∃ fault, (system.ingest limits models).2 = { system with saveFault := fault }) ∨
    (system.accepts limits models = true ∧ ingestionObstacle? limits models = none ∧
      ∃ fault, (system.ingest limits models).2 =
        { system with
          store := system.store.putAll (firstOfEachKey models)
          saveFault := fault }.evictAll ((firstOfEachKey models).map Prod.fst)) := by
  unfold accepts ingest
  cases hobstacle : ingestionObstacle? limits models with
  | some error => exact .inl ⟨rfl, system.saveFault, rfl⟩
  | none =>
    unfold save
    cases hfault : system.saveFault.next with
    | mk error? fault =>
      cases error? with
      | some error => exact .inl ⟨rfl, fault, rfl⟩
      | none => exact .inr ⟨rfl, rfl, fault, rfl⟩

/-- What the store has of a key after a batch: an accepted batch that has the key leaves its first
model of the key there, and every other batch leaves what was there. -/
theorem find?_ingest (limits : Limits) (system : System) (models : List Model) (key : EndpointKey) :
    (system.ingest limits models).2.store.find? key =
      if system.accepts limits models then
        (models.find? fun model => model.key == key).or (system.store.find? key)
      else system.store.find? key := by
  rcases ingest_cases limits system models with
    ⟨hrejected, fault, hafter⟩ | ⟨haccepted, -, fault, hafter⟩
  · rw [hafter, hrejected]
    rfl
  · rw [hafter, evictAll_store, haccepted, if_pos rfl]
    cases hfirst : models.find? fun model => model.key == key with
    | some model =>
      exact Store.find?_putAll_of_mem (nodup_firstOfEachKey models)
        (mem_firstOfEachKey.mpr hfirst)
    | none =>
      refine Store.find?_putAll_of_notMem fun hmem => ?_
      obtain ⟨⟨_, model⟩, hentry, rfl⟩ := List.mem_map.mp hmem
      rw [mem_firstOfEachKey.mp hentry] at hfirst
      cases hfirst

/-- A settled system stays settled when a batch is taken in: whatever the batch changes in the
store is dropped from the cache. -/
theorem Settled.ingest {system : System} (h : system.Settled) (limits : Limits)
    (models : List Model) : (system.ingest limits models).2.Settled := by
  rcases ingest_cases limits system models with ⟨-, fault, hafter⟩ | ⟨-, -, fault, hafter⟩
  · rw [hafter]
    exact h.of_views h.quiet (fun _ _ hheld => hheld) rfl
  · rw [hafter]
    refine ⟨fun key => ?_, fun key model hheld => ?_⟩
    · apply flight?_evictAll
      exact h.quiet
    · obtain ⟨hkey, hheld⟩ := holds_of_holds_evictAll _ hheld
      rw [evictAll_store]
      exact (h.faithful key model hheld).trans (Store.find?_putAll_of_notMem hkey).symm

end ApiDrift.System
