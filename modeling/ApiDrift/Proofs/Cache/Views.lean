import ApiDrift.Cache

/-!
# What is seen of a cache

Two views of a cache suffice to follow its values: the models that it holds for a key, and the
flight that is registered for a key. Every operation is described by what it does to them. A
lookup holds on to what was there, the end of a flight adds at most the result of a flight that
was not detached, and dropping a key leaves neither a model nor a flight of it.
-/

namespace ApiDrift.Cache

/-- A lookup behind one more entry finds that entry or what was found before. -/
theorem lookup_cons_ite {α β : Type} [DecidableEq α] (name other : α) (value : β)
    (entries : List (α × β)) :
    ((name, value) :: entries).lookup other =
      if other = name then some value else entries.lookup other := by
  rw [List.lookup_cons]
  by_cases h : other = name
  · simp [h]
  · have hb : (other == name) = false := by simpa using h
    rw [hb, if_neg h]

/-- The cache has an entry of a key with what it was looked up as. -/
def Holds (cache : Cache) (key : EndpointKey) (model : CachedModel) : Prop :=
  ∃ entry ∈ cache.entries, entry.key = key ∧ entry.model = model

/-- An empty cache holds nothing. -/
theorem not_holds_new (maxEntries ttl : Nat) (key : EndpointKey) (model : CachedModel) :
    ¬(new maxEntries ttl).Holds key model := by
  rintro ⟨entry, hentry, -⟩
  simp [new] at hentry

/-- Only the entries matter for what a cache holds. -/
theorem Holds.of_subset {cache cache' : Cache} (hsub : cache.entries ⊆ cache'.entries)
    {key : EndpointKey} {model : CachedModel} (h : cache.Holds key model) :
    cache'.Holds key model := by
  obtain ⟨entry, hentry, hkey⟩ := h
  exact ⟨entry, hsub hentry, hkey⟩

/-- The entry that is found for a key is one of the entries and has that key. -/
theorem entry?_mem {cache : Cache} {key : EndpointKey} {entry : CacheEntry}
    (h : cache.entry? key = some entry) : entry ∈ cache.entries ∧ entry.key = key := by
  refine ⟨List.mem_of_find?_eq_some h, ?_⟩
  simpa using List.find?_some h

/-- The entries without a key are the ones with another key. -/
theorem mem_without {key : EndpointKey} {entries : List CacheEntry} {entry : CacheEntry} :
    entry ∈ without key entries ↔ entry ∈ entries ∧ entry.key ≠ key := by
  simp [without]

/-- Two caches have the same flights, registered and detached. -/
structure SameFlights (cache cache' : Cache) : Prop where
  /-- The flights to join are the same. -/
  registered : cache'.registered = cache.registered
  /-- The flights whose results are not kept are the same. -/
  detached : cache'.detached = cache.detached
  /-- The next flight gets the same name. -/
  nextFlight : cache'.nextFlight = cache.nextFlight

namespace SameFlights

/-- Every cache has its own flights. -/
theorem refl (cache : Cache) : SameFlights cache cache := ⟨rfl, rfl, rfl⟩

theorem trans {a b c : Cache} (hab : SameFlights a b) (hbc : SameFlights b c) :
    SameFlights a c :=
  ⟨hbc.registered.trans hab.registered, hbc.detached.trans hab.detached,
    hbc.nextFlight.trans hab.nextFlight⟩

/-- The same flight is registered for each key. -/
theorem flight?_eq {cache cache' : Cache} (h : SameFlights cache cache') (key : EndpointKey) :
    cache'.flight? key = cache.flight? key := by
  rw [flight?, h.registered, flight?]

end SameFlights

/-- A lookup leaves the flights alone. -/
theorem sameFlights_lookup (cache : Cache) (now : Nat) (key : EndpointKey) :
    SameFlights cache (cache.lookup now key).2 := by
  unfold lookup
  split
  · exact .refl cache
  · dsimp only
    split <;> exact ⟨rfl, rfl, rfl⟩

/-- A lookup finds what the cache holds. -/
theorem holds_of_lookup_eq_some {cache : Cache} {now : Nat} {key : EndpointKey}
    {model : CachedModel} (h : (cache.lookup now key).1 = some model) : cache.Holds key model := by
  unfold lookup at h
  split at h
  · cases h
  · next entry hentry =>
    dsimp only at h
    split at h
    · obtain ⟨hmem, hkey⟩ := entry?_mem hentry
      exact ⟨entry, hmem, hkey, Option.some.inj h⟩
    · cases h

/-- What is held after a lookup was held before it. -/
theorem holds_of_holds_lookup {cache : Cache} {now : Nat} {key other : EndpointKey}
    {model : CachedModel} (h : (cache.lookup now key).2.Holds other model) :
    cache.Holds other model := by
  unfold lookup at h
  split at h
  · exact h
  · next entry hentry =>
    dsimp only at h
    split at h
    · obtain ⟨found, hmem, hkey⟩ := h
      rcases List.mem_cons.mp hmem with rfl | hmem
      · exact ⟨entry, (entry?_mem hentry).1, hkey⟩
      · exact ⟨found, (mem_without.mp hmem).1, hkey⟩
    · exact h.of_subset fun found hmem => (mem_without.mp hmem).1

/-- A first lookup answers as the lookup does, and only counts beyond it. -/
theorem firstLookup_eq (cache : Cache) (now : Nat) (key : EndpointKey) :
    ∃ counters, cache.firstLookup now key =
      ((cache.lookup now key).1, { (cache.lookup now key).2 with counters }) := by
  unfold firstLookup
  split
  · next model after h => exact ⟨_, by rw [h]⟩
  · next after h => exact ⟨after.counters, by rw [h]⟩

/-- A first lookup leaves the flights alone. -/
theorem sameFlights_firstLookup (cache : Cache) (now : Nat) (key : EndpointKey) :
    SameFlights cache (cache.firstLookup now key).2 := by
  obtain ⟨counters, h⟩ := firstLookup_eq cache now key
  rw [h]
  exact (sameFlights_lookup cache now key).trans ⟨rfl, rfl, rfl⟩

/-- A first lookup finds what the cache holds. -/
theorem holds_of_firstLookup_eq_some {cache : Cache} {now : Nat} {key : EndpointKey}
    {model : CachedModel} (h : (cache.firstLookup now key).1 = some model) :
    cache.Holds key model := by
  obtain ⟨counters, heq⟩ := firstLookup_eq cache now key
  rw [heq] at h
  exact holds_of_lookup_eq_some h

/-- What is held after a first lookup was held before it. -/
theorem holds_of_holds_firstLookup {cache : Cache} {now : Nat} {key other : EndpointKey}
    {model : CachedModel} (h : (cache.firstLookup now key).2.Holds other model) :
    cache.Holds other model := by
  obtain ⟨counters, heq⟩ := firstLookup_eq cache now key
  rw [heq] at h
  exact holds_of_holds_lookup h

/-- What boarding does: a hit of what is held, or a flight that is joined, which leave the flights
alone, or a new flight, which is registered for its key. -/
theorem board_cases (cache : Cache) (now : Nat) (key : EndpointKey) :
    (∃ model, (cache.board now key).1 = .hit model ∧ cache.Holds key model ∧
      SameFlights cache (cache.board now key).2) ∨
    (∃ flight, (cache.board now key).1 = .joins flight ∧ cache.flight? key = some flight ∧
      SameFlights cache (cache.board now key).2) ∨
    ((cache.board now key).1 = .leads cache.nextFlight ∧ cache.flight? key = none ∧
      (cache.board now key).2.registered = (key, cache.nextFlight) :: cache.registered ∧
      (cache.board now key).2.detached = cache.detached ∧
      (cache.board now key).2.nextFlight = cache.nextFlight + 1) := by
  have hsame := sameFlights_lookup cache now key
  unfold board
  split
  · next model after h =>
    rw [h] at hsame
    exact .inl ⟨model, rfl, holds_of_lookup_eq_some (by rw [h]), hsame.trans ⟨rfl, rfl, rfl⟩⟩
  · next after h =>
    rw [h] at hsame
    have hflight : after.flight? key = cache.flight? key := hsame.flight?_eq key
    dsimp only
    split
    · next flight hjoin =>
      refine .inr (.inl ⟨flight, rfl, ?_, hsame.trans ⟨rfl, rfl, rfl⟩⟩)
      exact hflight.symm.trans hjoin
    · next hnone =>
      refine .inr (.inr ⟨?_, hflight.symm.trans hnone, ?_, hsame.detached, ?_⟩)
      · rw [← hsame.nextFlight]
      · rw [← hsame.nextFlight, ← hsame.registered]
      · rw [← hsame.nextFlight]

/-- The flight of each key after one more was registered. -/
theorem flight?_of_registered {cache cache' : Cache} {key : EndpointKey} {flight : FlightId}
    (h : cache'.registered = (key, flight) :: cache.registered) (other : EndpointKey) :
    cache'.flight? other = if other = key then some flight else cache.flight? other := by
  rw [flight?, h, lookup_cons_ite, flight?]

/-- A key without a flight is not among the registrations. -/
theorem notMem_of_flight?_eq_none {cache : Cache} {key : EndpointKey}
    (h : cache.flight? key = none) :
    key ∉ cache.registered.map Prod.fst := by
  intro hmem
  obtain ⟨⟨name, flight⟩, hentry, rfl⟩ := List.mem_map.mp hmem
  have hne := List.lookup_eq_none_iff.mp h _ hentry
  simp at hne

/-- What is held after boarding was held before it. -/
theorem holds_of_holds_board {cache : Cache} {now : Nat} {key other : EndpointKey}
    {model : CachedModel} (h : (cache.board now key).2.Holds other model) :
    cache.Holds other model := by
  have hlookup : (cache.lookup now key).2.Holds other model := by
    unfold board at h
    split at h
    · next heq => rwa [heq]
    · next heq =>
      rw [heq]
      dsimp only at h
      split at h <;> exact h
  exact holds_of_holds_lookup hlookup

/-- A sweep drops entries. -/
theorem sweep_entries_subset (cache : Cache) (now : Nat) :
    (cache.sweep now).entries ⊆ cache.entries := by
  intro entry h
  have h : entry ∈ (cache.entries.reverse.dropWhile fun e => !cache.isFresh now e).reverse := h
  simpa using (List.dropWhile_sublist _).subset (List.mem_reverse.mp h)

/-- A push adds the entry and drops others. -/
theorem mem_push {cache : Cache} {entry found : CacheEntry}
    (h : found ∈ (cache.push entry).entries) : found = entry ∨ found ∈ cache.entries := by
  unfold push at h
  split at h
  · exact (List.mem_cons.mp h).imp_right fun hmem => (mem_without.mp hmem).1
  · split at h
    · exact (List.mem_cons.mp h).imp_right fun hmem =>
        (List.dropLast_sublist _).subset hmem
    · exact List.mem_cons.mp h

/-- An insertion leaves the flights alone. -/
theorem sameFlights_insert (cache : Cache) (now : Nat) (key : EndpointKey) (model : CachedModel) :
    SameFlights cache (cache.insert now key model) := by
  unfold insert push
  split
  · exact ⟨rfl, rfl, rfl⟩
  · split <;> exact ⟨rfl, rfl, rfl⟩

/-- What is held after an insertion is what was inserted or was held before. -/
theorem holds_of_holds_insert {cache : Cache} {now : Nat} {key other : EndpointKey}
    {model found : CachedModel} (h : (cache.insert now key model).Holds other found) :
    (other = key ∧ found = model) ∨ cache.Holds other found := by
  obtain ⟨entry, hmem, hkey, hmodel⟩ := h
  rcases mem_push hmem with rfl | hmem
  · exact .inl ⟨hkey.symm, hmodel.symm⟩
  · exact .inr ⟨entry, sweep_entries_subset cache now hmem, hkey, hmodel⟩

/-- The registrations of the keys with a property. -/
theorem lookup_filter (registered : List (EndpointKey × FlightId)) (p : EndpointKey → Bool)
    (other : EndpointKey) :
    (registered.filter fun entry => p entry.1).lookup other =
      if p other then registered.lookup other else none := by
  induction registered with
  | nil => simp
  | cons entry rest ih =>
    obtain ⟨name, flight⟩ := entry
    rw [List.filter_cons, lookup_cons_ite]
    dsimp only
    by_cases hother : other = name
    · subst hother
      cases hp : p other
      · rw [if_neg Bool.false_ne_true, ih, hp]
        rfl
      · rw [if_pos rfl, if_pos rfl, lookup_cons_ite, if_pos rfl, if_pos rfl]
    · rw [if_neg hother, ← ih]
      cases hp : p name
      · rw [if_neg Bool.false_ne_true]
      · rw [if_pos rfl, lookup_cons_ite, if_neg hother]

/-- The registrations without those of a key. -/
theorem lookup_filter_ne (registered : List (EndpointKey × FlightId)) (key other : EndpointKey) :
    (registered.filter fun entry => entry.1 != key).lookup other =
      if other = key then none else registered.lookup other := by
  rw [lookup_filter registered (· != key)]
  by_cases hother : other = key <;> simp [hother]

/-- A flight that ends is registered no more, and nothing else is unregistered. -/
theorem flight?_unregister (cache : Cache) (key other : EndpointKey) (flight : FlightId) :
    (cache.unregister key flight).flight? other =
      if other = key ∧ cache.flight? key = some flight then none else cache.flight? other := by
  unfold unregister
  split
  · next h =>
    have hfilter := lookup_filter_ne cache.registered key other
    simp only [flight?] at h ⊢
    rw [hfilter]
    by_cases hother : other = key
    · simp [hother, h]
    · simp [hother]
  · next h => simp [h]

/-- Unregistering changes no entry. -/
@[simp] theorem unregister_entries (cache : Cache) (key : EndpointKey) (flight : FlightId) :
    (cache.unregister key flight).entries = cache.entries := by
  unfold unregister
  split <;> rfl

@[simp] theorem unregister_detached (cache : Cache) (key : EndpointKey) (flight : FlightId) :
    (cache.unregister key flight).detached = cache.detached := by
  unfold unregister
  split <;> rfl

@[simp] theorem unregister_nextFlight (cache : Cache) (key : EndpointKey) (flight : FlightId) :
    (cache.unregister key flight).nextFlight = cache.nextFlight := by
  unfold unregister
  split <;> rfl

/-- What the end of a flight keeps of its outcome, before it is unregistered. -/
def settle (cache : Cache) (now : Nat) (key : EndpointKey) (flight : FlightId)
    (outcome : LoadOutcome) : Cache :=
  match outcome with
  | .ok model => if cache.detached.contains flight then cache else cache.insert now key model
  | .error _ => { cache with counters.loadFailures := cache.counters.loadFailures + 1 }

/-- The end of a flight settles its outcome and then takes the flight off the books. -/
theorem finish_eq (cache : Cache) (now : Nat) (key : EndpointKey) (flight : FlightId)
    (outcome : LoadOutcome) :
    cache.finish now key flight outcome =
      let settled := (cache.settle now key flight outcome).unregister key flight
      { settled with detached := settled.detached.erase flight } := rfl

/-- Settling an outcome leaves the flights alone. -/
theorem sameFlights_settle (cache : Cache) (now : Nat) (key : EndpointKey) (flight : FlightId)
    (outcome : LoadOutcome) : SameFlights cache (cache.settle now key flight outcome) := by
  unfold settle
  split
  · split
    · exact .refl cache
    · exact sameFlights_insert cache now key _
  · exact ⟨rfl, rfl, rfl⟩

/-- A flight that ends is registered no more. The other registrations stay, also a later one of
the same key. -/
theorem flight?_finish (cache : Cache) (now : Nat) (key other : EndpointKey) (flight : FlightId)
    (outcome : LoadOutcome) :
    (cache.finish now key flight outcome).flight? other =
      if other = key ∧ cache.flight? key = some flight then none else cache.flight? other := by
  have hsame := sameFlights_settle cache now key flight outcome
  rw [← hsame.flight?_eq key, ← hsame.flight?_eq other]
  exact flight?_unregister (cache.settle now key flight outcome) key other flight

/-- A flight that ends is detached no more. -/
theorem finish_detached (cache : Cache) (now : Nat) (key : EndpointKey) (flight : FlightId)
    (outcome : LoadOutcome) :
    (cache.finish now key flight outcome).detached = cache.detached.erase flight := by
  rw [finish_eq]
  dsimp only
  rw [unregister_detached, (sameFlights_settle cache now key flight outcome).detached]

/-- The end of a flight uses up no name. -/
theorem finish_nextFlight (cache : Cache) (now : Nat) (key : EndpointKey) (flight : FlightId)
    (outcome : LoadOutcome) :
    (cache.finish now key flight outcome).nextFlight = cache.nextFlight := by
  rw [finish_eq]
  dsimp only
  rw [unregister_nextFlight, (sameFlights_settle cache now key flight outcome).nextFlight]

/-- What is held after the end of a flight was held before it, or it is the model that a flight
found that was not detached. -/
theorem holds_of_holds_finish {cache : Cache} {now : Nat} {key other : EndpointKey}
    {flight : FlightId} {outcome : LoadOutcome} {model : CachedModel}
    (h : (cache.finish now key flight outcome).Holds other model) :
    (other = key ∧ outcome = .ok model ∧ flight ∉ cache.detached) ∨ cache.Holds other model := by
  have hsettle : (cache.settle now key flight outcome).Holds other model := by
    refine h.of_subset ?_
    rw [finish_eq]
    dsimp only
    rw [unregister_entries]
    exact List.Subset.refl _
  unfold settle at hsettle
  split at hsettle
  · next found =>
    split at hsettle
    · exact .inr hsettle
    · next hkept =>
      rcases holds_of_holds_insert hsettle with ⟨hkey, rfl⟩ | hheld
      · exact .inl ⟨hkey, rfl, by simpa using hkept⟩
      · exact .inr hheld
  · exact .inr hsettle

/-- Dropping a key leaves exactly what is held of other keys. -/
theorem holds_evict (cache : Cache) (key other : EndpointKey) (model : CachedModel) :
    (cache.evict key).Holds other model ↔ other ≠ key ∧ cache.Holds other model := by
  constructor
  · rintro ⟨entry, hmem, rfl, hmodel⟩
    obtain ⟨hmem, hne⟩ := mem_without.mp hmem
    exact ⟨hne, entry, hmem, rfl, hmodel⟩
  · rintro ⟨hne, entry, hmem, rfl, hmodel⟩
    exact ⟨entry, mem_without.mpr ⟨hmem, hne⟩, rfl, hmodel⟩

/-- Dropping a key unregisters its flight and no other. -/
theorem flight?_evict (cache : Cache) (key other : EndpointKey) :
    (cache.evict key).flight? other = if other = key then none else cache.flight? other :=
  lookup_filter_ne cache.registered key other

/-- A flight is detached after its key was dropped exactly when it was registered for the key or
detached before. -/
theorem mem_evict_detached {cache : Cache} {key : EndpointKey} {flight : FlightId} :
    flight ∈ (cache.evict key).detached ↔
      cache.flight? key = some flight ∨ flight ∈ cache.detached := by
  simp [evict]

end ApiDrift.Cache
