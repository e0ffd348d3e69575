import ApiDrift.Proofs.Cache.Use

/-!
# The entry of a key

What a lookup finds depends on nothing but the entry of the key: it finds the model of a fresh
entry, which it refreshes, and an expired entry is gone behind it. The end of a flight that was not
detached leaves an entry with what it found, and all else that is done with a key leaves the entries
of other keys alone.
-/

namespace ApiDrift.Cache

variable {cache : Cache} {now : Nat} {key other : EndpointKey} {model : CachedModel}

/-- Only the entries matter for the entry of a key. -/
theorem entry?_of_entries {after : Cache} (h : after.entries = cache.entries) (key : EndpointKey) :
    after.entry? key = cache.entry? key :=
  congrArg (List.find? _) h

/-- A key has no entry exactly when nothing is held for it. -/
theorem entry?_eq_none_iff : cache.entry? key = none ↔ ∀ model, ¬cache.Holds key model := by
  unfold entry?
  rw [List.find?_eq_none]
  constructor
  · rintro h model ⟨entry, hentry, hkey, -⟩
    exact h entry hentry (by simpa using hkey)
  · intro h entry hentry hkey
    exact h entry.model ⟨entry, hentry, by simpa using hkey, rfl⟩

/-- A key has no entry of which nothing is held that was not held before, when it had none. -/
theorem entry?_eq_none_of_holds {after : Cache} (h : cache.entry? key = none)
    (hheld : ∀ model, after.Holds key model → cache.Holds key model) : after.entry? key = none :=
  entry?_eq_none_iff.mpr fun model hmodel => entry?_eq_none_iff.mp h model (hheld model hmodel)

/-- Among the entries without a key, every other key has the same entry. -/
theorem find?_without (key other : EndpointKey) (entries : List CacheEntry) :
    (without key entries).find? (fun entry => entry.key == other) =
      if other = key then none else entries.find? fun entry => entry.key == other := by
  induction entries with
  | nil => simp [without]
  | cons entry rest ih =>
    unfold without at ih ⊢
    by_cases hkey : entry.key = key
    · rw [List.filter_cons_of_neg (by simpa using hkey), ih]
      by_cases hother : other = key
      · simp [hother]
      · have hne : (entry.key == other) = false :=
          beq_false_of_ne (hkey.symm ▸ Ne.symm hother)
        simp [hother, hne]
    · rw [List.filter_cons_of_pos (by simpa using hkey), List.find?_cons, List.find?_cons]
      by_cases hother : entry.key = other
      · have hne : ¬other = key := hother ▸ hkey
        simp [hother, hne]
      · have hne : (entry.key == other) = false := by simpa using hother
        rw [hne, ih]

/-- A lookup finds the model of a fresh entry of the key. -/
theorem lookup_fst (cache : Cache) (now : Nat) (key : EndpointKey) :
    (cache.lookup now key).1 =
      ((cache.entry? key).filter (cache.isFresh now)).map CacheEntry.model := by
  unfold lookup
  cases cache.entry? key with
  | none => rfl
  | some entry =>
    dsimp only
    cases hfresh : cache.isFresh now entry <;> simp [Option.filter, hfresh]

/-- Behind a lookup a fresh entry of the key was used now, an expired one is gone, and every other
key has the entry that it had. -/
theorem entry?_lookup (cache : Cache) (now : Nat) (key other : EndpointKey) :
    entry? (cache.lookup now key).2 other =
      if other = key then
        ((cache.entry? key).filter (cache.isFresh now)).map fun entry =>
          { entry with lastAccess := now }
      else cache.entry? other := by
  unfold lookup
  cases hentry : cache.entry? key with
  | none =>
    by_cases hother : other = key
    · simp [hother, hentry, Option.filter]
    · simp [hother]
  | some entry =>
    have hkey := (entry?_mem hentry).2
    dsimp only
    cases hfresh : cache.isFresh now entry with
    | false =>
      rw [if_neg (by simp)]
      refine (find?_without key other cache.entries).trans ?_
      simp [Option.filter, hfresh, entry?]
    | true =>
      rw [if_pos rfl, entry?, List.find?_cons]
      by_cases hother : other = key
      · simp [hother, hkey, Option.filter, hfresh]
      · have hne : (entry.key == other) = false :=
          beq_false_of_ne (hkey.symm ▸ Ne.symm hother)
        simp only [hne, find?_without, hother, if_false]
        rfl

/-- Behind a lookup that finds nothing, the key has no entry. -/
theorem entry?_of_lookup_eq_none (h : (cache.lookup now key).1 = none) :
    entry? (cache.lookup now key).2 key = none := by
  rw [lookup_fst, Option.map_eq_none_iff] at h
  rw [entry?_lookup, if_pos rfl, h]
  rfl

/-- Boarding that is no hit leaves no entry of the key. -/
theorem entry?_of_board (cache : Cache) (now : Nat) (key : EndpointKey) :
    (∃ model, (cache.board now key).1 = .hit model) ∨
      entry? (cache.board now key).2 key = none := by
  have hentries := (board_entries_and_settings cache now key).1
  have hnone : (cache.lookup now key).1 = none → entry? (cache.lookup now key).2 key = none :=
    entry?_of_lookup_eq_none
  rw [← entry?_of_entries hentries key] at hnone
  unfold board at hnone ⊢
  split
  · next found after heq => exact .inl ⟨found, rfl⟩
  · next after heq =>
    rw [heq] at hnone
    exact .inr (hnone rfl)

/-- A lookup of a key without an entry finds nothing and leaves the cache as it is. -/
theorem lookup_of_entry?_eq_none (h : cache.entry? key = none) :
    cache.lookup now key = (none, cache) := by
  unfold lookup
  rw [h]

/-- A lookup finds a fresh entry, which was used now behind it. -/
theorem lookup_of_fresh {entry : CacheEntry} (hentry : cache.entry? key = some entry)
    (hfresh : cache.isFresh now entry = true) :
    (cache.lookup now key).1 = some entry.model ∧
      entry? (cache.lookup now key).2 key = some { entry with lastAccess := now } := by
  rw [lookup_fst, entry?_lookup, if_pos rfl, hentry]
  simp [Option.filter, hfresh]

/-- Boarding hits what a lookup finds. If it finds nothing, a request joins the flight that is
registered for the key, or leads the next one. -/
theorem board_fst (cache : Cache) (now : Nat) (key : EndpointKey) :
    (cache.board now key).1 =
      match (cache.lookup now key).1 with
      | some model => .hit model
      | none => (cache.flight? key).elim (.leads cache.nextFlight) .joins := by
  have hsame := sameFlights_lookup cache now key
  unfold board
  split
  · next heq => rw [heq]
  · next after heq =>
    rw [heq] at hsame ⊢
    have hflight : after.flight? key = cache.flight? key := hsame.flight?_eq key
    dsimp only
    rw [← hflight, ← hsame.nextFlight]
    split
    · next hjoin => exact (hjoin ▸ rfl)
    · next hnone => exact (hnone ▸ rfl)

/-- Boarding that leads no flight leaves the flights alone. -/
theorem sameFlights_board (h : ∀ flight, (cache.board now key).1 ≠ .leads flight) :
    SameFlights cache (cache.board now key).2 := by
  rcases cache.board_cases now key with ⟨-, -, -, hsame⟩ | ⟨-, -, -, hsame⟩ | ⟨hboarding, -⟩
  · exact hsame
  · exact hsame
  · exact absurd hboarding (h _)

/-- Boarding that leads a flight registers it. -/
theorem board_registered {flight : FlightId} (h : (cache.board now key).1 = .leads flight) :
    (cache.board now key).2.registered = (key, flight) :: cache.registered := by
  rcases cache.board_cases now key with ⟨model, hboarding, -⟩ | ⟨joined, hboarding, -⟩ |
    ⟨hboarding, -, hregistered, -⟩
  · rw [hboarding] at h
    cases h
  · rw [hboarding] at h
    cases h
  · rw [hboarding] at h
    cases h
    exact hregistered

/-- Dropping a key leaves the entries of the others. -/
theorem entry?_evict (cache : Cache) (key other : EndpointKey) :
    entry? (cache.evict key) other = if other = key then none else cache.entry? other :=
  find?_without key other cache.entries

/-- The end of a flight that was not detached leaves an entry with what was found. -/
theorem entry?_finish {flight : FlightId} (hkept : flight ∉ cache.detached) :
    entry? (cache.finish now key flight (.ok model)) key = some ⟨key, model, now⟩ := by
  rw [entry?_of_entries (finish_entries cache now key flight (.ok model)) key]
  have hcontains : ¬cache.detached.contains flight = true := by simpa using hkept
  unfold settle insert push
  dsimp only
  rw [if_neg hcontains]
  split
  · simp [Cache.entry?]
  · split <;> simp [Cache.entry?]

end ApiDrift.Cache
