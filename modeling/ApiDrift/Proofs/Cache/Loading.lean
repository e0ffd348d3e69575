import ApiDrift.Proofs.Cache.Fresh

/-!
# A cache while a key is loaded

A request that finds no fresh entry of its key takes an expired one away. If no flight is registered
for the key, it registers the next one, and until that flight ends all further requests for the key
join it and leave all but the number of misses as it is. When the load fails, the registration goes,
and of the load there stays nothing but what was counted and that its name was given away.
-/

namespace ApiDrift.Cache

variable {cache : Cache} {now : Nat} {key : EndpointKey} {flight : FlightId}

/-- The cache without the entry of a key, which has expired. -/
def expired (cache : Cache) (key : EndpointKey) : Cache :=
  { cache with
    entries := without key cache.entries
    counters.expirations :=
      cache.counters.expirations + if (cache.entry? key).isSome then 1 else 0 }

/-- The cache while the next flight loads a key, which so many requests missed. -/
def loading (cache : Cache) (key : EndpointKey) (misses loads : Nat) : Cache :=
  { cache with
    registered := (key, cache.nextFlight) :: cache.registered
    nextFlight := cache.nextFlight + 1
    counters.misses := cache.counters.misses + misses
    counters.loads := cache.counters.loads + loads }

/-- The cache behind a load that failed, which so many requests missed. -/
def failed (cache : Cache) (misses : Nat) : Cache :=
  { cache with
    nextFlight := cache.nextFlight + 1
    counters.misses := cache.counters.misses + misses
    counters.loads := cache.counters.loads + 1
    counters.loadFailures := cache.counters.loadFailures + 1 }

/-- A lookup that finds nothing takes the entry of its key away. -/
theorem lookup_eq_expired (h : (cache.lookup now key).1 = none) :
    cache.lookup now key = (none, cache.expired key) := by
  unfold lookup at h ⊢
  unfold expired
  cases hentry : cache.entry? key with
  | none =>
    rw [without_of_entry?_eq_none hentry]
    rfl
  | some entry =>
    rw [hentry] at h
    dsimp only at h ⊢
    split
    · next hfresh =>
      rw [if_pos hfresh] at h
      cases h
    · rfl

/-- The expired entry of a key is gone. -/
theorem entry?_expired (cache : Cache) (key : EndpointKey) :
    entry? (cache.expired key) key = none := by
  unfold entry? expired
  exact (find?_without key key cache.entries).trans (if_pos rfl)

/-- A first lookup of a key without an entry finds nothing and leaves the cache as it is. -/
theorem firstLookup_of_entry?_eq_none (h : cache.entry? key = none) :
    cache.firstLookup now key = (none, cache) := by
  rw [firstLookup, lookup_of_entry?_eq_none h]

/-- A request that misses a key without a flight leads the next one. -/
theorem board_of_absent (hentry : cache.entry? key = none) (hflight : cache.flight? key = none) :
    cache.board now key = (.leads cache.nextFlight, cache.loading key 1 0) := by
  have hfree : flight? { cache with counters.misses := cache.counters.misses + 1 } key = none :=
    hflight
  rw [board, lookup_of_entry?_eq_none hentry]
  dsimp only
  rw [hfree]
  rfl

/-- A request that misses a key while it is loaded joins the load. -/
theorem board_loading (hentry : cache.entry? key = none) (misses loads : Nat) :
    (cache.loading key misses loads).board now key =
      (.joins cache.nextFlight, cache.loading key (misses + 1) loads) := by
  have habsent : entry? (cache.loading key misses loads) key = none := hentry
  have hjoined : flight? (cache.loading key (misses + 1) loads) key = some cache.nextFlight :=
    (lookup_cons_ite ..).trans (if_pos rfl)
  rw [board, lookup_of_entry?_eq_none habsent]
  dsimp only
  rw [show { cache.loading key misses loads with
      counters.misses := (cache.loading key misses loads).counters.misses + 1 } =
        cache.loading key (misses + 1) loads from rfl, hjoined]

/-- A request finds nothing of a key without an entry and a flight, and leads the next flight. -/
theorem access_of_absent (hentry : cache.entry? key = none) (hflight : cache.flight? key = none) :
    (cache.access now key).1 = .leads cache.nextFlight := by
  rw [access, firstLookup_of_entry?_eq_none hentry]
  dsimp only
  rw [board_of_absent hentry hflight]

/-- A request that leads a flight has found nothing, neither a fresh entry nor a flight. -/
theorem absent_of_access (h : (cache.access now key).1 = .leads flight) :
    cache.firstLookup now key = (none, cache.expired key) ∧
      (cache.lookup now key).1 = none ∧ cache.flight? key = none := by
  cases hlooked : (cache.lookup now key).1 with
  | some model =>
    have hfound : (cache.firstLookup now key).1 = some model := by
      rw [(cache.firstLookup_entries now key).1, hlooked]
    unfold access at h
    split at h
    · cases h
    · next heq => simp [heq] at hfound
  | none =>
    have hfirst : cache.firstLookup now key = (none, cache.expired key) := by
      rw [firstLookup, lookup_eq_expired hlooked]
    refine ⟨hfirst, rfl, ?_⟩
    rw [access, hfirst] at h
    dsimp only at h
    rw [board_fst, lookup_of_entry?_eq_none (entry?_expired cache key)] at h
    cases hflight : cache.flight? key with
    | none => rfl
    | some joined =>
      have hjoined : (cache.expired key).flight? key = some joined := hflight
      rw [hjoined] at h
      cases h

/-- The end of a load that failed takes its flight off the books. -/
theorem finish_loading (hflight : cache.flight? key = none)
    (hnew : cache.nextFlight ∉ cache.detached) (misses : Nat) (error : StoreError) :
    (cache.loading key misses 1).finish now key cache.nextFlight (.error error) =
      cache.failed misses := by
  have hregistered : (cache.loading key misses 1).flight? key = some cache.nextFlight :=
    (lookup_cons_ite ..).trans (if_pos rfl)
  have hothers : (cache.loading key misses 1).registered.filter (fun entry => entry.1 != key) =
      cache.registered := by
    refine (List.filter_cons_of_neg (by simp)).trans (List.filter_eq_self.mpr fun entry hentry => ?_)
    refine bne_iff_ne.mpr ?_
    rintro rfl
    exact notMem_of_flight?_eq_none hflight (List.mem_map_of_mem hentry)
  have hdetached : cache.detached.erase cache.nextFlight = cache.detached :=
    List.erase_of_not_mem hnew
  refine (congrArg (fun settled : Cache =>
    { settled with detached := settled.detached.erase cache.nextFlight })
      (if_pos hregistered)).trans ?_
  exact congrArg₂ (fun registered detached => ({ cache.failed misses with
    registered := registered
    detached := detached } : Cache)) hothers hdetached

/-- The end of a load that found something only takes its flight off the books if the flight was
detached. -/
theorem finish_of_detached (hdetached : flight ∈ cache.detached)
    (hunregistered : cache.flight? key ≠ some flight) (model : CachedModel) :
    cache.finish now key flight (.ok model) =
      { cache with detached := cache.detached.erase flight } := by
  have hsettled : cache.settle now key flight (.ok model) = cache :=
    if_pos (List.contains_iff_mem.mpr hdetached)
  rw [finish_eq, hsettled]
  exact congrArg (fun settled : Cache =>
    { settled with detached := settled.detached.erase flight }) (if_neg hunregistered)

/-- A lookup that finds nothing has found no fresh entry of the key. -/
theorem Tidy.isFresh_eq_false (h : cache.Tidy now) (hnone : (cache.lookup now key).1 = none)
    {entry : CacheEntry} (hmem : entry ∈ cache.entries) (hkey : entry.key = key) :
    cache.isFresh now entry = false := by
  rw [lookup_fst, h.entry?_eq_some_iff.mpr ⟨hmem, hkey⟩, Option.map_eq_none_iff] at hnone
  exact eq_false_of_ne_true (Option.filter_eq_none_iff.mp hnone entry rfl)

end ApiDrift.Cache
