import ApiDrift.Proofs.Cache.Use

/-!
# What a cache counts of requests

A request counts one hit or one miss: a hit when its first lookup finds something, and otherwise
one of both when it boards. A leader counts a load. No other operation changes these numbers.
-/

namespace ApiDrift.Cache

/-- Hits and misses together. -/
def requests (cache : Cache) : Nat :=
  cache.counters.hits + cache.counters.misses

/-- Two caches counted as many requests and loads. -/
structure SameTally (cache cache' : Cache) : Prop where
  /-- There were as many hits and misses. -/
  requests : cache'.requests = cache.requests
  /-- There were as many loads. -/
  loads : cache'.counters.loads = cache.counters.loads

/-- Every cache has its own numbers. -/
theorem SameTally.refl (cache : Cache) : SameTally cache cache := ⟨rfl, rfl⟩

variable (cache : Cache) (now : Nat) (key : EndpointKey)

/-- A lookup counts nothing but expired entries. -/
theorem lookup_counters :
    ∃ expirations, (cache.lookup now key).2.counters = { cache.counters with expirations } := by
  unfold lookup
  split
  · exact ⟨_, rfl⟩
  · dsimp only
    split <;> exact ⟨_, rfl⟩

/-- A push counts nothing but evicted entries. -/
theorem push_counters (entry : CacheEntry) :
    ∃ evictions, (cache.push entry).counters = { cache.counters with evictions } := by
  unfold push
  split
  · exact ⟨_, rfl⟩
  · split <;> exact ⟨_, rfl⟩

/-- The end of a flight counts a load that failed, and nothing else but evicted and expired
entries. -/
theorem finish_counters (flight : FlightId) (outcome : LoadOutcome) :
    ∃ evictions expirations, (cache.finish now key flight outcome).counters =
      { cache.counters with
        loadFailures := cache.counters.loadFailures + if outcome.isOk then 0 else 1
        evictions
        expirations } := by
  have hcounters : (cache.finish now key flight outcome).counters =
      (cache.settle now key flight outcome).counters := by
    rw [finish_eq]
    unfold unregister
    dsimp only
    split <;> rfl
  rw [hcounters]
  unfold settle
  split
  · split
    · exact ⟨_, _, rfl⟩
    · next model _ =>
      obtain ⟨evictions, hpush⟩ := push_counters (cache.sweep now) ⟨key, model, now⟩
      exact ⟨evictions, _, hpush⟩
  · exact ⟨_, _, rfl⟩

/-- The end of a flight counts no request. -/
theorem sameTally_finish (flight : FlightId) (outcome : LoadOutcome) :
    SameTally cache (cache.finish now key flight outcome) := by
  obtain ⟨evictions, expirations, hcounters⟩ := finish_counters cache now key flight outcome
  exact ⟨by rw [requests, hcounters]; rfl, by rw [hcounters]⟩

/-- A first lookup counts a hit if it finds something, and nothing else but expired entries. -/
theorem firstLookup_counters :
    ∃ expirations, (cache.firstLookup now key).2.counters =
      { cache.counters with
        hits := cache.counters.hits + if (cache.firstLookup now key).1.isSome then 1 else 0
        expirations } := by
  obtain ⟨expirations, hcounters⟩ := lookup_counters cache now key
  refine ⟨expirations, ?_⟩
  unfold firstLookup
  split
  · next heq =>
    rw [heq] at hcounters
    dsimp only at hcounters ⊢
    rw [hcounters]
    rfl
  · next heq =>
    rw [heq] at hcounters
    exact hcounters

/-- Boarding counts a hit or a miss, and nothing else but expired entries. -/
theorem board_counters :
    ∃ expirations, (cache.board now key).2.counters =
      match (cache.board now key).1 with
      | .hit _ => { cache.counters with hits := cache.counters.hits + 1, expirations }
      | .joins _ | .leads _ =>
        { cache.counters with misses := cache.counters.misses + 1, expirations } := by
  obtain ⟨expirations, hcounters⟩ := lookup_counters cache now key
  refine ⟨expirations, ?_⟩
  unfold board
  split
  · next heq =>
    rw [heq] at hcounters
    dsimp only at hcounters ⊢
    rw [hcounters]
  · next heq =>
    rw [heq] at hcounters
    dsimp only at hcounters ⊢
    split <;> rw [hcounters]

/-- A first lookup counts a request if it finds something. -/
theorem firstLookup_tally :
    (cache.firstLookup now key).2.requests =
        cache.requests + (if (cache.firstLookup now key).1.isSome then 1 else 0) ∧
      (cache.firstLookup now key).2.counters.loads = cache.counters.loads := by
  obtain ⟨expirations, hcounters⟩ := firstLookup_counters cache now key
  rw [requests, hcounters, requests]
  exact ⟨by dsimp only; omega, rfl⟩

/-- Boarding counts a request. -/
theorem board_tally :
    (cache.board now key).2.requests = cache.requests + 1 ∧
      (cache.board now key).2.counters.loads = cache.counters.loads := by
  obtain ⟨expirations, hcounters⟩ := board_counters cache now key
  rw [requests, hcounters, requests]
  cases (cache.board now key).1 <;> exact ⟨by dsimp only; omega, rfl⟩

end ApiDrift.Cache
