import ApiDrift.Proofs.Traffic.Flights

/-!
# What a step of traffic changes

For each thing that can be seen of the traffic over a store, one lemma says where it may come from
in the state before a step: a value that the cache holds, a value that a leader has read, a
registered flight, somebody who waits, a result, an answer. What holds of all runs follows from
these lemmas without looking at the steps again.
-/

namespace ApiDrift.Traffic

variable {limits : Limits} {s t : Traffic} {event : Event} {key : EndpointKey}
  {flight : FlightId} {model : CachedModel}

/-- The leader of a flight has read a model of a key, and the flight has not ended. -/
def Reads (s : Traffic) (key : EndpointKey) (flight : FlightId) (model : CachedModel) : Prop :=
  ∃ i : Nat, s.callers[i]? = some ⟨key, .loaded flight (.found model)⟩

/-- A leader that has read something leads its flight. -/
theorem Reads.leads (h : s.Reads key flight model) : ∃ i, Leads s.callers i key flight := by
  obtain ⟨i, hi⟩ := h
  exact ⟨i, _, hi, rfl, rfl⟩

/-- What a leader has read was read before a step, or it is what the store has. -/
theorem Reads.of_step (h : t.Reads key flight model) (hstep : Step limits s event t) :
    s.Reads key flight model ∨ model = s.store.find? key := by
  obtain ⟨j, hj⟩ := h
  cases hstep with
  | arrive other =>
    rcases getElem?_of_append hj with hj | ⟨-, hnew⟩
    · exact .inl ⟨j, hj⟩
    · cases hfound : (s.cache.firstLookup s.now other).1 <;>
        simp [hfound, Phase.ofFirstLookup] at hnew
  | @board i other hcaller =>
    rcases getElem?_of_set hj with hj | ⟨-, hnew⟩
    · exact .inl ⟨j, hj⟩
    · cases hboarding : (s.cache.board s.now other).1 <;>
        simp [hboarding, Boarding.phase] at hnew
  | @load i other flight' answer hcaller hanswer =>
    rcases getElem?_of_set hj with hj | ⟨-, hnew⟩
    · exact .inl ⟨j, hj⟩
    · cases hnew
      exact .inr hanswer
  | finish hcaller =>
    rcases getElem?_of_set hj with hj | ⟨-, hnew⟩
    · exact .inl ⟨j, hj⟩
    · cases hnew
  | wake hcaller hresult =>
    rcases getElem?_of_set hj with hj | ⟨-, hnew⟩
    · exact .inl ⟨j, hj⟩
    · cases hnew
  | evict | advance | accept | write | drop => exact .inl ⟨j, hj⟩

/-- A flight that is registered was registered before a step, or it has the next name. -/
theorem flight?_of_step (h : t.cache.flight? key = some flight)
    (hstep : Step limits s event t) :
    s.cache.flight? key = some flight ∨ flight = s.cache.nextFlight := by
  cases hstep with
  | arrive other =>
    exact .inl (((s.cache.sameFlights_firstLookup s.now other).flight?_eq key).symm.trans h)
  | @board i other hcaller =>
    rcases s.cache.board_cases s.now other with ⟨-, -, -, hsame⟩ | ⟨-, -, -, hsame⟩ |
      ⟨-, -, hregistered, -⟩
    · exact .inl ((hsame.flight?_eq key).symm.trans h)
    · exact .inl ((hsame.flight?_eq key).symm.trans h)
    · have hflight := (Cache.flight?_of_registered hregistered key).symm.trans h
      split at hflight
      · exact .inr (Option.some.inj hflight).symm
      · exact .inl hflight
  | finish hcaller =>
    have hflight := (Cache.flight?_finish ..).symm.trans h
    split at hflight
    · cases hflight
    · exact .inl hflight
  | evict other | drop =>
    have hflight := (Cache.flight?_evict ..).symm.trans h
    split at hflight
    · cases hflight
    · exact .inl hflight
  | load | wake | advance | accept | write => exact .inl h

/-- Names of flights are given away in increasing order. -/
theorem nextFlight_le_of_step (hstep : Step limits s event t) :
    s.cache.nextFlight ≤ t.cache.nextFlight := by
  cases hstep with
  | arrive other =>
    exact Nat.le_of_eq (s.cache.sameFlights_firstLookup s.now other).nextFlight.symm
  | @board i other hcaller =>
    rcases s.cache.board_cases s.now other with ⟨-, -, -, hsame⟩ | ⟨-, -, -, hsame⟩ |
      ⟨-, -, -, -, hnext⟩
    · exact Nat.le_of_eq hsame.nextFlight.symm
    · exact Nat.le_of_eq hsame.nextFlight.symm
    · exact Nat.le_of_succ_le (Nat.le_of_eq hnext.symm)
  | finish hcaller => exact Nat.le_of_eq (Cache.finish_nextFlight ..).symm
  | load | wake | evict | advance | accept | write | drop => exact Nat.le_refl _

/-- What the cache holds was held before a step, or a registered flight has read it. -/
theorem holds_of_step (horderly : s.Orderly) (h : t.cache.Holds key model)
    (hstep : Step limits s event t) :
    s.cache.Holds key model ∨ ∃ flight, s.Reads key flight model ∧
      s.cache.flight? key = some flight := by
  cases hstep with
  | arrive other => exact .inl (Cache.holds_of_holds_firstLookup h)
  | board hcaller => exact .inl (Cache.holds_of_holds_board h)
  | @finish i other flight answer hcaller =>
    rcases Cache.holds_of_holds_finish h with ⟨rfl, hanswer, hkept⟩ | hheld
    · have hleader : Leads s.callers i key flight := ⟨_, hcaller, rfl, rfl⟩
      refine .inr ⟨flight, ⟨i, ?_⟩, (horderly.registered hleader).resolve_right hkept⟩
      cases answer with
      | found found =>
        cases hanswer
        exact hcaller
      | failed error => cases hanswer
      | unwound => cases hanswer
    · exact .inl hheld
  | evict other | drop => exact .inl ((Cache.holds_evict ..).mp h).2
  | load | wake | advance | accept | write => exact .inl h

/-- A caller that waits did so before a step, or it joined the registered flight of its key. -/
theorem waits_of_step {i : Nat} (h : t.callers[i]? = some ⟨key, .waits flight⟩)
    (hstep : Step limits s event t) :
    s.callers[i]? = some ⟨key, .waits flight⟩ ∨ s.cache.flight? key = some flight := by
  cases hstep with
  | arrive other =>
    rcases getElem?_of_append h with h | ⟨-, hnew⟩
    · exact .inl h
    · cases hfound : (s.cache.firstLookup s.now other).1 <;>
        simp [hfound, Phase.ofFirstLookup] at hnew
  | @board j other hcaller =>
    rcases getElem?_of_set h with h | ⟨-, hnew⟩
    · exact .inl h
    · rcases s.cache.board_cases s.now other with ⟨found, hboarding, -⟩ |
        ⟨joined, hboarding, hjoined, -⟩ | ⟨hboarding, -⟩
      · rw [hboarding] at hnew
        cases hnew
      · rw [hboarding] at hnew
        cases hnew
        exact .inr hjoined
      · rw [hboarding] at hnew
        cases hnew
  | load hcaller | finish hcaller | wake hcaller =>
    rcases getElem?_of_set h with h | ⟨-, hnew⟩
    · exact .inl h
    · cases hnew
  | evict | advance | accept | write | drop => exact .inl h

/-- A caller that leads a flight did so before a step, or it boarded and the flight got the next
name. -/
theorem leads_of_step {i : Nat} (h : Leads t.callers i key flight)
    (hstep : Step limits s event t) :
    Leads s.callers i key flight ∨ (event = .board i ∧ flight = s.cache.nextFlight) := by
  obtain ⟨caller, hi, hkey, hled⟩ := h
  cases hstep with
  | arrive other =>
    rcases getElem?_of_append hi with hi | ⟨-, rfl⟩
    · exact .inl ⟨caller, hi, hkey, hled⟩
    · cases hfound : (s.cache.firstLookup s.now other).1 <;>
        simp [hfound, Phase.ofFirstLookup, Phase.led?] at hled
  | @board j other hcaller =>
    rcases getElem?_of_set hi with hi | ⟨rfl, rfl⟩
    · exact .inl ⟨caller, hi, hkey, hled⟩
    · rcases s.cache.board_cases s.now other with ⟨found, hboarding, -⟩ |
        ⟨joined, hboarding, -⟩ | ⟨hboarding, -⟩
      · simp [hboarding, Boarding.phase, Phase.led?] at hled
      · simp [hboarding, Boarding.phase, Phase.led?] at hled
      · rw [hboarding] at hled
        exact .inr ⟨rfl, (Option.some.inj hled).symm⟩
  | load hcaller hanswer =>
    rcases getElem?_of_set hi with hi | ⟨rfl, rfl⟩
    · exact .inl ⟨caller, hi, hkey, hled⟩
    · exact .inl ⟨_, hcaller, hkey, hled⟩
  | finish hcaller | wake hcaller =>
    rcases getElem?_of_set hi with hi | ⟨-, rfl⟩
    · exact .inl ⟨caller, hi, hkey, hled⟩
    · cases hled
  | evict | advance | accept | write | drop => exact .inl ⟨caller, hi, hkey, hled⟩

/-- The result of a flight was there before a step, or the leader of the flight has read it. -/
theorem result_of_step (h : t.results.lookup flight = some (.ok model))
    (hstep : Step limits s event t) :
    s.results.lookup flight = some (.ok model) ∨ ∃ key, s.Reads key flight model := by
  cases hstep with
  | @finish i other ended answer hcaller =>
    have h := List.lookup_cons.symm.trans h
    by_cases hflight : flight = ended
    · subst hflight
      rw [beq_self_eq_true] at h
      refine .inr ⟨other, i, ?_⟩
      cases answer with
      | found found =>
        cases h
        exact hcaller
      | failed error => cases h
      | unwound => cases h
    · have hb : (flight == ended) = false := by simpa using hflight
      rw [hb] at h
      exact .inl h
  | arrive | board | load | wake | evict | advance | accept | write | drop => exact .inl h

/-- An answer was given before a step, or the cache holds it, or the caller has read it itself, or
it is the result of the flight that the caller waits for. -/
theorem answer_of_step {i : Nat} (h : t.callers[i]? = some ⟨key, .answered (.found model)⟩)
    (hstep : Step limits s event t) :
    s.callers[i]? = some ⟨key, .answered (.found model)⟩ ∨ s.cache.Holds key model ∨
      (∃ flight, s.callers[i]? = some ⟨key, .loaded flight (.found model)⟩) ∨
      ∃ flight, s.callers[i]? = some ⟨key, .waits flight⟩ ∧
        s.results.lookup flight = some (.ok model) := by
  cases hstep with
  | arrive other =>
    rcases getElem?_of_append h with h | ⟨-, hnew⟩
    · exact .inl h
    · cases hfound : (s.cache.firstLookup s.now other).1 with
      | none => simp [hfound, Phase.ofFirstLookup] at hnew
      | some found =>
        rw [hfound] at hnew
        cases hnew
        exact .inr (.inl (Cache.holds_of_firstLookup_eq_some hfound))
  | @board j other hcaller =>
    rcases getElem?_of_set h with h | ⟨-, hnew⟩
    · exact .inl h
    · rcases s.cache.board_cases s.now other with ⟨found, hboarding, hheld, -⟩ |
        ⟨joined, hboarding, -⟩ | ⟨hboarding, -⟩
      · rw [hboarding] at hnew
        cases hnew
        exact .inr (.inl hheld)
      · rw [hboarding] at hnew
        cases hnew
      · rw [hboarding] at hnew
        cases hnew
  | load hcaller hanswer =>
    rcases getElem?_of_set h with h | ⟨-, hnew⟩
    · exact .inl h
    · cases hnew
  | @finish j other ended answer hcaller =>
    rcases getElem?_of_set h with h | ⟨rfl, hnew⟩
    · exact .inl h
    · cases hnew
      exact .inr (.inr (.inl ⟨ended, hcaller⟩))
  | @wake j other awaited outcome hcaller hresult =>
    rcases getElem?_of_set h with h | ⟨rfl, hnew⟩
    · exact .inl h
    · refine .inr (.inr (.inr ⟨awaited, ?_⟩))
      cases outcome with
      | ok found =>
        cases hnew
        exact ⟨hcaller, hresult⟩
      | error error => cases hnew
  | evict | advance | accept | write | drop => exact .inl h

/-- The store has the same model of a key as before a step, unless the step writes the key. -/
theorem find?_of_step (hstep : Step limits s event t) (key : EndpointKey) :
    t.store.find? key = s.store.find? key ∨ ∃ j new, event = .write j key new := by
  cases hstep with
  | @write i models written new rest keys hintake =>
    by_cases hkey : key = written
    · exact .inr ⟨i, new, by rw [hkey]⟩
    · exact .inl ((s.store.find?_put written key new).trans (if_neg hkey))
  | arrive | board | load | finish | wake | evict | advance | accept | drop => exact .inl rfl

/-- A caller stays where it is in the order of arrival. -/
theorem callers_length_le_of_step (hstep : Step limits s event t) :
    s.callers.length ≤ t.callers.length := by
  cases hstep with
  | arrive other => exact (List.prefix_append s.callers _).length_le
  | board | load | finish | wake => exact Nat.le_of_eq (List.length_set ..).symm
  | evict | advance | accept | write | drop => exact Nat.le_refl _

/-- Callers keep their places in a run. -/
theorem Run.callers_length_le {events : List Event} (hrun : Run limits s events t) :
    s.callers.length ≤ t.callers.length := by
  induction hrun with
  | nil => exact Nat.le_refl _
  | snoc _ hstep ih => exact Nat.le_trans ih (callers_length_le_of_step hstep)

end ApiDrift.Traffic
