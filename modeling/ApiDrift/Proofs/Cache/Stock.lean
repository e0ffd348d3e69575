import ApiDrift.Proofs.Cache.Fresh
import ApiDrift.Proofs.Cache.Tally

/-!
# What became of the entries

An entry is in the cache, or it made room for another one, or it was too old, or it was dropped. So
the entries together with the evicted and expired ones become more only when a result is inserted,
and fewer only when a key is dropped that has an entry.
-/

namespace ApiDrift.Cache

variable {cache : Cache} {now : Nat} {key : EndpointKey}

/-- The entries, together with those that were counted when they went. -/
def stock (cache : Cache) : Nat :=
  cache.entries.length + cache.counters.evictions + cache.counters.expirations

/-- A lookup counts an entry that it takes away. -/
theorem Tidy.stock_lookup (h : cache.Tidy now) (key : EndpointKey) :
    stock (cache.lookup now key).2 = cache.stock := by
  have hlength := length_without_add h.distinct key
  unfold Cache.lookup
  cases hentry : cache.entry? key with
  | none => rfl
  | some entry =>
    have hsome : (cache.entries.find? fun entry => entry.key == key).isSome = true :=
      Option.isSome_of_eq_some hentry
    rw [if_pos hsome] at hlength
    dsimp only
    unfold stock
    split
    · rw [List.length_cons, hlength]
    · dsimp only
      omega

/-- Two caches have the same entries and counted as many of them when they went. -/
structure SameStock (cache cache' : Cache) : Prop where
  /-- The entries are the same. -/
  entries : cache'.entries = cache.entries
  /-- As many made room for others. -/
  evictions : cache'.counters.evictions = cache.counters.evictions
  /-- As many were too old. -/
  expirations : cache'.counters.expirations = cache.counters.expirations

/-- A first lookup takes away and counts the entries that the lookup does. -/
theorem sameStock_firstLookup (cache : Cache) (now : Nat) (key : EndpointKey) :
    SameStock (cache.lookup now key).2 (cache.firstLookup now key).2 := by
  unfold firstLookup
  split <;> next heq => rw [heq]; exact ⟨rfl, rfl, rfl⟩

/-- Boarding takes away and counts the entries that the lookup does. -/
theorem sameStock_board (cache : Cache) (now : Nat) (key : EndpointKey) :
    SameStock (cache.lookup now key).2 (cache.board now key).2 := by
  unfold board
  split
  · next heq =>
    rw [heq]
    exact ⟨rfl, rfl, rfl⟩
  · next heq =>
    rw [heq]
    dsimp only
    split <;> exact ⟨rfl, rfl, rfl⟩

/-- The end of a flight takes away and counts the entries that settling its outcome does. -/
theorem sameStock_finish (cache : Cache) (now : Nat) (key : EndpointKey) (flight : FlightId)
    (outcome : LoadOutcome) :
    SameStock (cache.settle now key flight outcome) (cache.finish now key flight outcome) := by
  rw [finish_eq]
  unfold unregister
  dsimp only
  split <;> exact ⟨rfl, rfl, rfl⟩

/-- The same entries that went are the same stock. -/
theorem SameStock.stock_eq {cache' : Cache} (h : SameStock cache cache') :
    cache'.stock = cache.stock := by
  rw [stock, stock, h.entries, h.evictions, h.expirations]

/-- A sweep counts the entries that it takes away. -/
theorem stock_sweep : (cache.sweep now).stock = cache.stock := by
  have hsub : (cache.sweep now).entries.length ≤ cache.entries.length := by
    have hreversed : cache.entries.reverse.length = cache.entries.length := List.length_reverse
    unfold sweep
    rw [List.length_reverse, ← hreversed]
    exact (List.dropWhile_sublist _).length_le
  have hcounted : (cache.sweep now).counters.expirations = cache.counters.expirations +
      (cache.entries.length - (cache.sweep now).entries.length) := rfl
  have hevictions : (cache.sweep now).counters.evictions = cache.counters.evictions := rfl
  unfold stock
  omega

/-- A push of an entry of a new key adds one, and counts the one that it takes away. -/
theorem stock_push {entry : CacheEntry} (hroomy : 0 < cache.capacity)
    (hnew : cache.entry? entry.key = none) : (cache.push entry).stock = cache.stock + 1 := by
  unfold push
  rw [hnew, if_neg (by simp)]
  split
  · next hfull =>
    unfold stock
    rw [List.length_cons, List.length_dropLast]
    dsimp only
    omega
  · unfold stock
    rw [List.length_cons]
    dsimp only
    omega

/-- An insertion of a new key adds one entry. -/
theorem Tidy.stock_insert (h : cache.Tidy now) (hnew : cache.entry? key = none)
    (model : CachedModel) : (cache.insert now key model).stock = cache.stock + 1 := by
  have hroomy : 0 < (cache.sweep now).capacity := h.roomy
  have habsent : entry? (cache.sweep now) key = none :=
    entry?_eq_none_of_holds hnew fun _ hheld => hheld.of_subset (sweep_entries_subset cache now)
  rw [Cache.insert, stock_push hroomy habsent, stock_sweep]

/-- The end of a flight adds an entry if the flight found something and was not detached. -/
theorem Tidy.stock_finish (h : cache.Tidy now) {flight : FlightId} {outcome : LoadOutcome}
    (hnew : flight ∉ cache.detached → cache.entry? key = none) :
    (cache.finish now key flight outcome).stock =
      cache.stock + if outcome.isOk && !cache.detached.contains flight then 1 else 0 := by
  rw [(sameStock_finish ..).stock_eq]
  unfold settle
  cases outcome with
  | error error => rfl
  | ok model =>
    dsimp only
    cases hdetached : cache.detached.contains flight with
    | true => rfl
    | false =>
      have hkept : flight ∉ cache.detached := by simpa using hdetached
      exact h.stock_insert (hnew hkept) model

/-- Dropping a key takes away its entry, which is not counted. -/
theorem Tidy.stock_evict (h : cache.Tidy now) (key : EndpointKey) :
    (cache.evict key).stock + (if (cache.entry? key).isSome then 1 else 0) = cache.stock := by
  have hlength := length_without_add h.distinct key
  have hentries : (cache.evict key).entries = without key cache.entries := rfl
  have hevictions : (cache.evict key).counters.evictions = cache.counters.evictions := rfl
  have hexpirations : (cache.evict key).counters.expirations = cache.counters.expirations := rfl
  unfold stock entry?
  rw [hentries, hevictions, hexpirations]
  omega

/-- The entries that were too old at a time and are gone in another cache. -/
def outdated (cache after : Cache) (now : Nat) : List CacheEntry :=
  cache.entries.filter fun entry =>
    !cache.isFresh now entry && (after.entry? entry.key).isNone

/-- Every entry is found for its key. -/
theorem entry?_isSome_of_mem {entry : CacheEntry} (h : entry ∈ cache.entries) :
    (cache.entry? entry.key).isSome :=
  List.find?_isSome.mpr ⟨entry, h, beq_self_eq_true _⟩

/-- Nothing is gone of a cache whose keys all have entries. -/
theorem outdated_eq_nil {after : Cache}
    (h : ∀ entry ∈ cache.entries, (after.entry? entry.key).isSome) :
    cache.outdated after now = [] := by
  refine List.filter_eq_nil_iff.mpr fun entry hentry => ?_
  simp [Option.isSome_iff_ne_none.mp (h entry hentry)]

/-- Nothing is gone of a cache in itself. -/
theorem outdated_self (cache : Cache) (now : Nat) : cache.outdated cache now = [] :=
  outdated_eq_nil fun _ => entry?_isSome_of_mem

/-- The same entries are gone in caches with the same entries. -/
theorem SameStock.outdated_eq {after after' : Cache} (h : SameStock after after') :
    cache.outdated after' now = cache.outdated after now := by
  unfold outdated
  simp only [entry?_of_entries h.entries]

/-- A lookup counts the entry that is gone because it is too old. -/
theorem Tidy.expirations_lookup (h : cache.Tidy now) (key : EndpointKey) :
    (cache.lookup now key).2.counters.expirations =
      cache.counters.expirations + (cache.outdated (cache.lookup now key).2 now).length := by
  have hfound := entry?_lookup cache now key
  cases hentry : cache.entry? key with
  | none =>
    rw [lookup_of_entry?_eq_none hentry, outdated_self]
    rfl
  | some entry =>
    obtain ⟨hmem, hkey⟩ := entry?_mem hentry
    rw [hentry] at hfound
    cases hfresh : cache.isFresh now entry with
    | true =>
      have hnone : cache.outdated (cache.lookup now key).2 now = [] := by
        refine outdated_eq_nil fun other hother => ?_
        rw [hfound]
        split
        · simp [Option.filter, hfresh]
        · exact entry?_isSome_of_mem hother
      have hcounted : (cache.lookup now key).2.counters = cache.counters := by
        simp [Cache.lookup, hentry, hfresh]
      rw [hnone, hcounted]
      rfl
    | false =>
      have hgone : cache.outdated (cache.lookup now key).2 now =
          cache.entries.filter fun other => other.key == key := by
        refine List.filter_congr fun other hother => ?_
        rw [hfound]
        by_cases hsame : other.key = key
        · obtain rfl := List.inj_on_of_nodup_map h.distinct hother hmem (hsame.trans hkey.symm)
          simp [hkey, hfresh, Option.filter]
        · simp [hsame, h.entry?_eq_some_iff.mpr ⟨hother, rfl⟩]
      have hcounted : (cache.lookup now key).2.counters.expirations =
          cache.counters.expirations + 1 := by
        simp [Cache.lookup, hentry, hfresh]
      have hlength := length_without_add h.distinct key
      have hsplit := List.length_eq_length_filter_add (l := cache.entries)
        (fun other => other.key == key)
      have hsome : (cache.entries.find? fun other => other.key == key).isSome = true :=
        Option.isSome_of_eq_some hentry
      rw [if_pos hsome] at hlength
      have hwithout : (cache.entries.filter fun other => !(other.key == key)).length =
          (without key cache.entries).length := rfl
      rw [hgone, hcounted]
      omega

/-- What takes away and counts the entries that a lookup does counts the entry that is gone because
it is too old. -/
theorem Tidy.expirations_of_sameStock_lookup (h : cache.Tidy now) {after : Cache}
    (hsame : SameStock (cache.lookup now key).2 after) :
    after.counters.expirations =
      cache.counters.expirations + (cache.outdated after now).length := by
  rw [hsame.expirations, hsame.outdated_eq, h.expirations_lookup]

/-- An insertion of a new key counts the entries that are gone because they are too old. -/
theorem Tidy.expirations_insert (h : cache.Tidy now) (hnew : cache.entry? key = none)
    (model : CachedModel) :
    (cache.insert now key model).counters.expirations =
      cache.counters.expirations +
        (cache.outdated (cache.insert now key model) now).length := by
  have hswept : (cache.sweep now).entries = cache.fresh now := h.sweep_entries
  have hgone : cache.outdated (cache.insert now key model) now =
      cache.entries.filter fun entry => !cache.isFresh now entry := by
    refine List.filter_congr fun entry hentry => ?_
    cases hfresh : cache.isFresh now entry with
    | true => rfl
    | false =>
      have hother : key ≠ entry.key := by
        rintro rfl
        simpa [hnew] using entry?_isSome_of_mem hentry
      have hnone : entry? (cache.insert now key model) entry.key = none := by
        rw [Cache.entry?, h.insert_entries hnew, List.find?_eq_none, List.forall_mem_cons]
        refine ⟨by simpa using hother, fun kept hkept hsame => ?_⟩
        obtain ⟨hmem, hstays⟩ := List.mem_filter.mp (List.mem_of_mem_take hkept)
        obtain rfl := List.inj_on_of_nodup_map h.distinct hmem hentry (by simpa using hsame)
        rw [hfresh] at hstays
        cases hstays
      rw [hnone]
      rfl
  obtain ⟨evictions, hpush⟩ := push_counters (cache.sweep now) ⟨key, model, now⟩
  have hcounted : (cache.insert now key model).counters.expirations =
      cache.counters.expirations + (cache.entries.length - (cache.fresh now).length) := by
    rw [← hswept]
    exact congrArg Counters.expirations hpush
  have hsplit := List.length_eq_length_filter_add (l := cache.entries) (cache.isFresh now)
  have hfresh : (cache.fresh now).length = (cache.entries.filter (cache.isFresh now)).length := rfl
  rw [hgone, hcounted]
  omega

/-- The end of a flight counts the entries that are gone because they are too old. -/
theorem Tidy.expirations_finish (h : cache.Tidy now) {flight : FlightId} {outcome : LoadOutcome}
    (hnew : flight ∉ cache.detached → cache.entry? key = none) :
    (cache.finish now key flight outcome).counters.expirations =
      cache.counters.expirations +
        (cache.outdated (cache.finish now key flight outcome) now).length := by
  have hsame := sameStock_finish cache now key flight outcome
  rw [hsame.expirations, hsame.outdated_eq]
  unfold settle
  cases outcome with
  | error error =>
    have hcounted : SameStock cache
        { cache with counters.loadFailures := cache.counters.loadFailures + 1 } := ⟨rfl, rfl, rfl⟩
    dsimp only
    rw [hcounted.outdated_eq, outdated_self]
    rfl
  | ok model =>
    dsimp only
    split
    · rw [outdated_self]
      rfl
    · next hkept => exact h.expirations_insert (hnew (by simpa using hkept)) model

end ApiDrift.Cache
