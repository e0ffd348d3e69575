import ApiDrift.Proofs.Cache.Presence
import ApiDrift.Proofs.Traffic.Coherence

/-!
# One registered flight per key

A key has at most one registered flight, and as long as it has one nothing is cached for it. Only
dropping a key detaches a flight, the one that is registered for the key then. A detached flight
leaves nothing behind when it ends but its result for those who wait for it.
-/

namespace ApiDrift

/-- Whether an event drops a key. -/
def Event.drops (key : EndpointKey) : Event → Bool
  | .evict other | .drop _ other => other == key
  | _ => false

/-- A key is dropped by anybody or for an intake. -/
theorem Event.drops_iff {event : Event} {key : EndpointKey} :
    event.drops key = true ↔ event = .evict key ∨ ∃ j, event = .drop j key := by
  cases event <;> simp [drops]

namespace Cache

variable {cache : Cache} {now : Nat} {key : EndpointKey} {flight : FlightId} {outcome : LoadOutcome}

/-- Settling the outcome of a detached flight changes no entry. -/
theorem settle_entries_of_detached (h : flight ∈ cache.detached) :
    (cache.settle now key flight outcome).entries = cache.entries := by
  have hcontains : cache.detached.contains flight = true := by simpa using h
  unfold settle
  split
  · rw [if_pos hcontains]
  · rfl

/-- The end of a flight takes at most its own registration away. -/
theorem finish_registered (cache : Cache) (now : Nat) (key : EndpointKey) (flight : FlightId)
    (outcome : LoadOutcome) :
    (cache.finish now key flight outcome).registered =
      if cache.flight? key = some flight then
        cache.registered.filter fun entry => entry.1 != key
      else cache.registered := by
  have hsame := sameFlights_settle cache now key flight outcome
  rw [finish_eq, ← hsame.flight?_eq key, ← hsame.registered]
  unfold unregister
  dsimp only
  split <;> rfl

end Cache

namespace Traffic

variable {limits : Limits} {s t : Traffic} {event : Event} {events : List Event}
  {key : EndpointKey} {flight first : FlightId}

/-- The books on registered flights keep every key to one flight that is not detached, and nothing
is cached meanwhile. -/
structure Exclusive (s : Traffic) : Prop where
  /-- No key has two registered flights. -/
  distinct : (s.cache.registered.map Prod.fst).Nodup
  /-- A key with a registered flight has no entry. -/
  absent : ∀ {key flight}, s.cache.flight? key = some flight → s.cache.entry? key = none
  /-- A detached flight has a name that was given away, and is registered no more. -/
  detached : ∀ {flight}, flight ∈ s.cache.detached →
    flight < s.cache.nextFlight ∧ ∀ key, s.cache.flight? key ≠ some flight

/-- Nothing is registered before anything has happened. -/
theorem exclusive_start (maxEntries ttl : Nat) (store : Store) :
    Exclusive (start maxEntries ttl store) where
  distinct := .nil
  absent h := by cases h
  detached h := by cases h

/-- The books stay as they are when flights stay and no key gets an entry that had none. -/
theorem Exclusive.of_same (h : s.Exclusive) (hflights : Cache.SameFlights s.cache t.cache)
    (hheld : ∀ key model, t.cache.Holds key model → s.cache.Holds key model) : t.Exclusive where
  distinct := hflights.registered ▸ h.distinct
  absent {key flight} hflight := by
    rw [hflights.flight?_eq] at hflight
    exact Cache.entry?_eq_none_of_holds (h.absent hflight) (hheld key)
  detached {flight} hdetached := by
    rw [hflights.detached] at hdetached
    rw [hflights.nextFlight]
    obtain ⟨hnamed, hfree⟩ := h.detached hdetached
    exact ⟨hnamed, fun key => hflights.flight?_eq key ▸ hfree key⟩

/-- The books stay in order when a caller boards. -/
theorem Exclusive.board (h : s.Exclusive) (i : Nat) (key : EndpointKey) :
    (s.board i key).Exclusive := by
  have hheld : ∀ other model, (s.board i key).cache.Holds other model →
      s.cache.Holds other model := fun _ _ => Cache.holds_of_holds_board
  rcases s.cache.board_cases s.now key with ⟨model, -, -, hsame⟩ | ⟨flight, -, -, hsame⟩ |
    ⟨hboarding, hfree, hregistered, hdetached, hnext⟩
  · exact h.of_same hsame hheld
  · exact h.of_same hsame hheld
  · have hflight := Cache.flight?_of_registered hregistered
    constructor
    case distinct =>
      rw [Traffic.board, hregistered, List.map_cons, List.nodup_cons]
      exact ⟨Cache.notMem_of_flight?_eq_none hfree, h.distinct⟩
    case absent =>
      intro other flight hother
      by_cases hkey : other = key
      · subst hkey
        rcases Cache.entry?_of_board s.cache s.now other with ⟨model, hhit⟩ | hnone
        · rw [hboarding] at hhit
          cases hhit
        · exact hnone
      · have hother := (hflight other).symm.trans hother
        rw [if_neg hkey] at hother
        exact Cache.entry?_eq_none_of_holds (h.absent hother) (hheld other)
    case detached =>
      intro flight hmem
      rw [Traffic.board, hdetached] at hmem
      obtain ⟨hnamed, hnot⟩ := h.detached hmem
      rw [Traffic.board, hnext]
      refine ⟨Nat.lt_succ_of_lt hnamed, fun other => ?_⟩
      rw [hflight other]
      split
      · intro heq
        exact absurd hnamed (Option.some.inj heq ▸ Nat.lt_irrefl _)
      · exact hnot other

/-- The books stay in order when a flight ends: what it inserts is of its own key, which it
unregisters. -/
theorem Exclusive.finish (h : s.Exclusive) (horderly : s.Orderly) {i : Nat} {answer : LookupAnswer}
    (hcaller : s.callers[i]? = some ⟨key, .loaded flight answer⟩) :
    (s.finish i key flight answer).Exclusive := by
  have hleader : Leads s.callers i key flight := ⟨_, hcaller, rfl, rfl⟩
  have hflight := fun other =>
    Cache.flight?_finish s.cache s.now key other flight (answer.outcome key)
  constructor
  case distinct =>
    rw [Traffic.finish, Cache.finish_registered]
    split
    · exact h.distinct.sublist (List.filter_sublist.map Prod.fst)
    · exact h.distinct
  case absent =>
    intro other running hrunning
    have hrunning := (hflight other).symm.trans hrunning
    split at hrunning
    · cases hrunning
    · next hstays =>
      refine Cache.entry?_eq_none_of_holds (h.absent hrunning) fun model hmodel => ?_
      rcases Cache.holds_of_holds_finish hmodel with ⟨rfl, -, hkept⟩ | hheld
      · exact absurd ⟨rfl, (horderly.registered hleader).resolve_right hkept⟩ hstays
      · exact hheld
  case detached =>
    intro other hmem
    rw [Traffic.finish, Cache.finish_detached] at hmem
    obtain ⟨hnamed, hnot⟩ := h.detached (List.mem_of_mem_erase hmem)
    rw [Traffic.finish, Cache.finish_nextFlight]
    refine ⟨hnamed, fun name => ?_⟩
    rw [hflight name]
    split
    · simp
    · exact hnot name

/-- The books stay in order when a key is dropped. -/
theorem Exclusive.evict (h : s.Exclusive) (horderly : s.Orderly) (key : EndpointKey) :
    (s.evict key).Exclusive := by
  have hflight := Cache.flight?_evict s.cache key
  constructor
  case distinct => exact h.distinct.sublist (List.filter_sublist.map Prod.fst)
  case absent =>
    intro other flight hother
    have hother := (hflight other).symm.trans hother
    rw [Traffic.evict, Cache.entry?_evict]
    split
    · rfl
    · next hkey =>
      rw [if_neg hkey] at hother
      exact h.absent hother
  case detached =>
    intro flight hmem
    rcases Cache.mem_evict_detached.mp hmem with hregistered | hmem
    · obtain ⟨i, hleads⟩ := horderly.led hregistered
      refine ⟨horderly.named hleads, fun other hother => ?_⟩
      have hother := (hflight other).symm.trans hother
      split at hother
      · cases hother
      · next hkey =>
        obtain ⟨j, hleads'⟩ := horderly.led hother
        exact hkey (horderly.key_unique hleads' hleads)
    · obtain ⟨hnamed, hnot⟩ := h.detached hmem
      refine ⟨hnamed, fun other hother => ?_⟩
      have hother := (hflight other).symm.trans hother
      split at hother
      · cases hother
      · exact hnot other hother

/-- Every step keeps the books in order. -/
theorem Exclusive.step (h : s.Exclusive) (horderly : s.Orderly) (hstep : Step limits s event t) :
    t.Exclusive := by
  cases hstep with
  | arrive key =>
    exact h.of_same (s.cache.sameFlights_firstLookup s.now key)
      fun _ _ => Cache.holds_of_holds_firstLookup
  | @board i key hcaller => exact h.board i key
  | finish hcaller => exact h.finish horderly hcaller
  | evict key => exact h.evict horderly key
  | @drop i models key rest hintake =>
    exact (h.evict horderly key).of_same (.refl _) fun _ _ => id
  | load | wake | advance | accept | write => exact h.of_same ⟨rfl, rfl, rfl⟩ fun _ _ => id

section Reached

variable {maxEntries ttl : Nat} {store : Store}

/-- The books on flights are in order in every state that a run reaches. -/
theorem Run.orderly (hrun : Run limits (start maxEntries ttl store) events t) : t.Orderly :=
  (orderly_start ..).run hrun

/-- The books are exclusive in every state that a run reaches. -/
theorem Run.exclusive (hrun : Run limits (start maxEntries ttl store) events t) : t.Exclusive := by
  induction hrun with
  | nil => exact exclusive_start ..
  | snoc hrun hstep ih => exact ih.step hrun.orderly hstep

end Reached

/-- A detached flight was detached before a step, or the step drops the key for which it was
registered. -/
theorem detached_of_step (h : flight ∈ t.cache.detached) (hstep : Step limits s event t) :
    flight ∈ s.cache.detached ∨
      ∃ key, event.drops key = true ∧ s.cache.flight? key = some flight := by
  cases hstep with
  | arrive key => exact .inl ((s.cache.sameFlights_firstLookup s.now key).detached ▸ h)
  | @board i key hcaller =>
    rcases s.cache.board_cases s.now key with ⟨-, -, -, hsame⟩ | ⟨-, -, -, hsame⟩ |
      ⟨-, -, -, hdetached, -⟩
    · exact .inl (hsame.detached ▸ h)
    · exact .inl (hsame.detached ▸ h)
    · exact .inl (hdetached ▸ h)
  | @finish i key ended answer hcaller =>
    rw [Traffic.finish, Cache.finish_detached] at h
    exact .inl (List.mem_of_mem_erase h)
  | evict key | @drop i models key rest hintake =>
    rcases Cache.mem_evict_detached.mp h with hregistered | h
    · exact .inr ⟨key, beq_self_eq_true key, hregistered⟩
    · exact .inl h
  | load | wake | advance | accept | write => exact .inl h

/-- A caller that begins to lead a flight registers it, and no flight was registered for its key. -/
theorem registered_of_leads {i : Nat} (hleads : Leads t.callers i key flight)
    (hnew : ¬Leads s.callers i key flight) (hstep : Step limits s event t) :
    s.cache.flight? key = none ∧ t.cache.flight? key = some flight := by
  obtain ⟨rfl, rfl⟩ := (leads_of_step hleads hstep).resolve_left hnew
  cases hstep with
  | @board i other hcaller =>
    have hleads : Leads (s.callers.set i ⟨other, (s.cache.board s.now other).1.phase⟩) i key
        s.cache.nextFlight := hleads
    rcases s.cache.board_cases s.now other with ⟨model, hboarding, -⟩ | ⟨joined, hboarding, -⟩ |
      ⟨hboarding, hfree, hregistered, -⟩
    · rw [hboarding] at hleads
      refine absurd ((leads_set_of_eq hcaller ?_ ?_).mp hleads) hnew <;> rfl
    · rw [hboarding] at hleads
      refine absurd ((leads_set_of_eq hcaller ?_ ?_).mp hleads) hnew <;> rfl
    · rw [hboarding] at hleads
      obtain ⟨-, rfl, -⟩ := ((leads_set_leads hcaller).mp hleads).resolve_right hnew
      exact ⟨hfree, (Cache.flight?_of_registered hregistered key).trans (if_pos rfl)⟩

/-- A flight that is registered no more is not registered again. -/
theorem Run.flight?_ne (hrun : Run limits s events t) (hnamed : flight < s.cache.nextFlight)
    (hne : s.cache.flight? key ≠ some flight) : t.cache.flight? key ≠ some flight := by
  have hboth : flight < t.cache.nextFlight ∧ t.cache.flight? key ≠ some flight := by
    induction hrun with
    | nil => exact ⟨hnamed, hne⟩
    | snoc _ hstep ih =>
      refine ⟨Nat.lt_of_lt_of_le ih.1 (nextFlight_le_of_step hstep), fun hflight => ?_⟩
      rcases flight?_of_step hflight hstep with hflight | rfl
      · exact ih.2 hflight
      · exact Nat.lt_irrefl _ ih.1
  exact hboth.2

end Traffic

end ApiDrift
