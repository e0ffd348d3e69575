import ApiDrift.Proofs.Traffic.Coalescing
import ApiDrift.Proofs.Traffic.SingleFlight

/-!
# Every flight lands

A flight lands when the request of its leader ends, with a result or without one. It lands once, it
is registered no more then, and everybody who joined it is answered with its result, whether it was
detached or not. Until then its leader is running, so nobody waits for a flight that nobody leads,
and when no request is running no flight is registered.
-/

namespace ApiDrift.Traffic

variable {limits : Limits} {s t : Traffic} {event : Event} {events : List Event}
  {key : EndpointKey} {flight : FlightId} {answer : LookupAnswer} {i : Nat}

/-- No request is running. -/
def Idle (s : Traffic) : Prop :=
  ∀ caller ∈ s.callers, ∃ answer, caller.phase = .answered answer

instance (phase : Phase) : Decidable (∃ answer, phase = .answered answer) :=
  match phase with
  | .answered answer => isTrue ⟨answer, rfl⟩
  | .missed | .waits _ | .leads _ | .loaded .. => isFalse (by simp)

instance (s : Traffic) : Decidable s.Idle :=
  inferInstanceAs (Decidable (∀ caller ∈ s.callers, ∃ answer, caller.phase = .answered answer))

/-- How many callers lead a flight. -/
def leaders (s : Traffic) (flight : FlightId) : Nat :=
  s.callers.countP fun caller => caller.phase.led? == some flight

/-- How many results a flight has. -/
def landings (s : Traffic) (flight : FlightId) : Nat :=
  (s.results.map Prod.fst).count flight

section Counts

variable {old new : Caller}

/-- How many callers lead a flight after one went on. -/
theorem leaders_add (flight : FlightId) (hold : s.callers[i]? = some old)
    (hcallers : t.callers = s.callers.set i new) :
    t.leaders flight + (if old.phase.led? == some flight then 1 else 0) =
      s.leaders flight + if new.phase.led? == some flight then 1 else 0 := by
  rw [leaders, hcallers]
  exact countP_set_add hold

/-- As many callers lead a flight after one went on with the same flight, or with none as before. -/
theorem leaders_set (hold : s.callers[i]? = some old) (hcallers : t.callers = s.callers.set i new)
    (hled : new.phase.led? = old.phase.led?) : t.leaders flight = s.leaders flight := by
  rw [leaders, hcallers]
  exact countP_set_of_eq hold (by rw [hled])

end Counts

/-- The flights whose names were given away have one leader or one result, and the other ones have
neither. -/
def Balanced (s : Traffic) : Prop :=
  ∀ flight, s.landings flight + s.leaders flight =
    if flight < s.cache.nextFlight then 1 else 0

/-- The balance stays when results, leaders and names stay. -/
theorem Balanced.of_same (h : s.Balanced) (hresults : t.results = s.results)
    (hleaders : ∀ flight, t.leaders flight = s.leaders flight)
    (hnext : t.cache.nextFlight = s.cache.nextFlight) : t.Balanced := by
  intro flight
  rw [landings, hresults, hleaders, hnext]
  exact h flight

/-- The balance stays when a caller boards, who may lead a flight of the next name. -/
theorem Balanced.board (h : s.Balanced) (hcaller : s.callers[i]? = some ⟨key, .missed⟩) :
    (s.board i key).Balanced := by
  rcases s.cache.board_cases s.now key with ⟨model, hboarding, -, hsame⟩ |
    ⟨joined, hboarding, -, hsame⟩ | ⟨hboarding, -, -, -, hnext⟩
  · exact h.of_same rfl (fun _ => leaders_set hcaller rfl (by rw [hboarding]; rfl))
      hsame.nextFlight
  · exact h.of_same rfl (fun _ => leaders_set hcaller rfl (by rw [hboarding]; rfl))
      hsame.nextFlight
  · intro flight
    have hadd := leaders_add (t := s.board i key) flight hcaller rfl
    have hbefore := h flight
    have hlandings : (s.board i key).landings flight = s.landings flight := rfl
    have hname : (s.board i key).cache.nextFlight = s.cache.nextFlight + 1 := hnext
    rw [hboarding] at hadd
    simp only [Phase.led?, Boarding.phase, beq_iff_eq, Option.some.injEq, reduceCtorEq,
      if_false] at hadd
    rw [hlandings, hname]
    rcases Nat.lt_trichotomy flight s.cache.nextFlight with hlt | rfl | hgt
    · rw [if_neg (Nat.ne_of_gt hlt)] at hadd
      rw [if_pos hlt] at hbefore
      rw [if_pos (Nat.lt_succ_of_lt hlt)]
      omega
    · rw [if_pos rfl] at hadd
      rw [if_neg (Nat.lt_irrefl _)] at hbefore
      rw [if_pos (Nat.lt_succ_self _)]
      omega
    · rw [if_neg (Nat.ne_of_lt hgt)] at hadd
      rw [if_neg (Nat.lt_asymm hgt)] at hbefore
      rw [if_neg (Nat.not_lt.mpr hgt)]
      omega

/-- The balance stays when a flight ends, which has a result then. -/
theorem Balanced.finish (h : s.Balanced)
    (hcaller : s.callers[i]? = some ⟨key, .loaded flight answer⟩) :
    (s.finish i key flight answer).Balanced := by
  intro other
  have hadd := leaders_add (t := s.finish i key flight answer) other hcaller rfl
  have hname : (s.finish i key flight answer).cache.nextFlight = s.cache.nextFlight :=
    Cache.finish_nextFlight ..
  have hlandings : (s.finish i key flight answer).landings other =
      s.landings other + if flight == other then 1 else 0 := List.count_cons
  have hbefore := h other
  rw [hlandings, hname]
  simp only [Phase.led?, beq_iff_eq, Option.some.injEq, reduceCtorEq, if_false] at hadd ⊢
  omega

/-- Every step keeps the balance. -/
theorem Balanced.step (h : s.Balanced) (hstep : Step limits s event t) : t.Balanced := by
  cases hstep with
  | arrive key =>
    refine h.of_same rfl (fun flight => ?_) (s.cache.sameFlights_firstLookup s.now key).nextFlight
    rw [leaders, Traffic.arrive, List.countP_append, List.countP_singleton]
    cases (s.cache.firstLookup s.now key).1 <;> rfl
  | board hcaller => exact h.board hcaller
  | load hcaller | wake hcaller => exact h.of_same rfl (fun _ => leaders_set hcaller rfl rfl) rfl
  | finish hcaller => exact h.finish hcaller
  | evict | advance | accept | write | drop => exact h.of_same rfl (fun _ => rfl) rfl

/-- Every flight whose name was given away in a run has one leader or one result. -/
theorem Run.balanced {maxEntries ttl : Nat} {store : Store}
    (hrun : Run limits (start maxEntries ttl store) events t) : t.Balanced := by
  induction hrun with
  | nil => exact fun flight => rfl
  | snoc _ hstep ih => exact ih.step hstep

/-! ### How callers and results go on -/

/-- A caller stays where it stands while others go on. -/
theorem caller_of_step {caller : Caller} (h : s.callers[i]? = some caller)
    (hevent : event.caller? ≠ some i) (hstep : Step limits s event t) :
    t.callers[i]? = some caller := by
  cases hstep with
  | arrive key =>
    exact (List.getElem?_append_left (List.getElem?_eq_some_iff.mp h).1).trans h
  | board | load | finish | wake =>
    exact (List.getElem?_set_ne fun heq => hevent (congrArg some heq)).trans h
  | evict | advance | accept | write | drop => exact h

/-- A caller that is answered stays so. -/
theorem answered_of_step (h : s.callers[i]? = some ⟨key, .answered answer⟩)
    (hstep : Step limits s event t) : t.callers[i]? = some ⟨key, .answered answer⟩ := by
  refine caller_of_step h (fun hevent => ?_) hstep
  refine not_step_of_answered (fun caller hcaller => ?_) hevent hstep
  obtain rfl := Option.some.inj (h.symm.trans hcaller)
  exact ⟨answer, rfl⟩

/-- A caller that waits for a flight does so behind a step, or it is answered with the result of the
flight. -/
theorem waits_or_answered_of_step (h : s.callers[i]? = some ⟨key, .waits flight⟩)
    (hstep : Step limits s event t) :
    t.callers[i]? = some ⟨key, .waits flight⟩ ∨
      ∃ outcome, s.results.lookup flight = some outcome ∧
        t.callers[i]? = some ⟨key, .answered (.ofOutcome outcome)⟩ := by
  by_cases hevent : event.caller? = some i
  · cases hstep with
    | board hcaller | load hcaller | finish hcaller =>
      cases hevent
      cases h.symm.trans hcaller
    | wake hcaller hresult =>
      cases hevent
      cases h.symm.trans hcaller
      exact .inr ⟨_, hresult, List.getElem?_set_self (List.getElem?_eq_some_iff.mp h).1⟩
    | arrive | evict | advance | accept | write | drop => cases hevent
  · exact .inl (caller_of_step h hevent hstep)

/-- A caller that leads a flight does so behind a step, or the step ends the flight. -/
theorem leads_or_finish_of_step (h : Leads s.callers i key flight)
    (hstep : Step limits s event t) :
    Leads t.callers i key flight ∨
      ∃ answer, event = .finish i ∧ s.callers[i]? = some ⟨key, .loaded flight answer⟩ := by
  obtain ⟨caller, hcaller, rfl, hled⟩ := h
  by_cases hevent : event.caller? = some i
  · cases hstep with
    | board hphase | wake hphase =>
      cases hevent
      cases hcaller.symm.trans hphase
      cases hled
    | load hphase hanswer =>
      cases hevent
      cases hcaller.symm.trans hphase
      cases hled
      exact .inl ⟨_, List.getElem?_set_self (List.getElem?_eq_some_iff.mp hcaller).1, rfl, rfl⟩
    | finish hphase =>
      cases hevent
      cases hcaller.symm.trans hphase
      cases hled
      exact .inr ⟨_, rfl, hcaller⟩
    | arrive | evict | advance | accept | write | drop => cases hevent
  · exact .inl ⟨caller, caller_of_step hcaller hevent hstep, rfl, hled⟩

/-- The result of a flight stays. -/
theorem lookup_results_of_step (horderly : s.Orderly) {outcome : LoadOutcome}
    (h : s.results.lookup flight = some outcome) (hstep : Step limits s event t) :
    t.results.lookup flight = some outcome := by
  cases hstep with
  | @finish i other ended answer hcaller =>
    have hne : flight ≠ ended := by
      rintro rfl
      rw [horderly.running ⟨_, hcaller, rfl, rfl⟩] at h
      cases h
    exact (Cache.lookup_cons_ite ..).trans ((if_neg hne).trans h)
  | arrive | board | load | wake | evict | advance | accept | write | drop => exact h

/-- A result was there before a step, or a leader gave it when its flight ended. -/
theorem mem_results_of_step {outcome : LoadOutcome} (h : (flight, outcome) ∈ t.results)
    (hstep : Step limits s event t) :
    (flight, outcome) ∈ s.results ∨
      ∃ i key answer, event = .finish i ∧ s.callers[i]? = some ⟨key, .loaded flight answer⟩ ∧
        outcome = answer.outcome key := by
  cases hstep with
  | @finish i key ended answer hcaller =>
    rcases List.mem_cons.mp h with heq | h
    · cases heq
      exact .inr ⟨i, key, answer, rfl, hcaller, rfl⟩
    · exact .inl h
  | arrive | board | load | wake | evict | advance | accept | write | drop => exact .inl h

namespace Moment

/-- The step ends a flight, and with it the request of its leader. -/
def Lands (moment : Moment limits s events t) (i : Nat) (key : EndpointKey) (flight : FlightId)
    (answer : LookupAnswer) : Prop :=
  moment.event = .finish i ∧ moment.source.callers[i]? = some ⟨key, .loaded flight answer⟩

/-- What the end of a flight does. -/
theorem Lands.target_eq {moment : Moment limits s events t}
    (h : moment.Lands i key flight answer) :
    moment.target = moment.source.finish i key flight answer := by
  obtain ⟨hevent, hcaller⟩ := h
  obtain ⟨before, event, after, source, target, hevents, hreached, hstep, hrest⟩ := moment
  obtain rfl : event = .finish i := hevent
  cases hstep with
  | finish hphase =>
    cases hcaller.symm.trans hphase
    rfl

end Moment

section Reached

variable {maxEntries ttl : Nat} {store : Store}

/-- The result of a flight stays in a run. -/
theorem Run.lookup_results (hrun : Run limits s events t) (horderly : s.Orderly)
    {outcome : LoadOutcome} (h : s.results.lookup flight = some outcome) :
    t.results.lookup flight = some outcome := by
  induction hrun with
  | nil => exact h
  | snoc hrun hstep ih => exact lookup_results_of_step (horderly.run hrun) ih hstep

/-- A caller that is answered stays so in a run. -/
theorem Run.answered (hrun : Run limits s events t)
    (h : s.callers[i]? = some ⟨key, .answered answer⟩) :
    t.callers[i]? = some ⟨key, .answered answer⟩ := by
  induction hrun with
  | nil => exact h
  | snoc _ hstep ih => exact answered_of_step ih hstep

/-- A flight that has landed has a result, its leader is answered, and it is registered no more. -/
theorem Moment.Lands.landed {moment : Moment limits (start maxEntries ttl store) events t}
    (h : moment.Lands i key flight answer) :
    moment.target.results = (flight, answer.outcome key) :: moment.source.results ∧
      (∀ other, moment.target.cache.flight? other ≠ some flight) ∧
        t.results.lookup flight = some (answer.outcome key) ∧
          t.callers[i]? = some ⟨key, .answered answer⟩ := by
  have hresults : moment.target.results =
      (flight, answer.outcome key) :: moment.source.results := by
    rw [h.target_eq]
    rfl
  have hcaller : moment.target.callers[i]? = some ⟨key, .answered answer⟩ := by
    rw [h.target_eq]
    exact List.getElem?_set_self (List.getElem?_eq_some_iff.mp h.2).1
  have horderly := (moment.reached.snoc moment.step).orderly
  have hlookup : moment.target.results.lookup flight = some (answer.outcome key) := by
    rw [hresults, Cache.lookup_cons_ite, if_pos rfl]
  refine ⟨hresults, fun other hregistered => ?_, moment.rest.lookup_results horderly hlookup,
    moment.rest.answered hcaller⟩
  obtain ⟨j, hleads⟩ := horderly.led hregistered
  rw [horderly.running hleads] at hlookup
  cases hlookup

/-- Every result is that of a flight that has landed. -/
theorem Run.exists_lands_of_mem_results
    (hrun : Run limits (start maxEntries ttl store) events t) {outcome : LoadOutcome}
    (h : (flight, outcome) ∈ t.results) :
    ∃ (moment : Moment limits (start maxEntries ttl store) events t) (i : Nat)
      (key : EndpointKey) (answer : LookupAnswer),
        moment.Lands i key flight answer ∧ outcome = answer.outcome key := by
  induction hrun with
  | nil => cases h
  | snoc hrun hstep ih =>
    rcases mem_results_of_step h hstep with hmem | ⟨i, key, answer, hevent, hcaller, houtcome⟩
    · obtain ⟨moment, i, key, answer, hlands, houtcome⟩ := ih hmem
      exact ⟨moment.snoc hstep, i, key, answer, hlands, houtcome⟩
    · exact ⟨.last hrun hstep, i, key, answer, ⟨hevent, hcaller⟩, houtcome⟩

/-- A flight that is waited for is led by a caller of the same key, or it has landed. -/
theorem Run.leads_or_lands_of_waits (hrun : Run limits (start maxEntries ttl store) events t)
    (h : t.callers[i]? = some ⟨key, .waits flight⟩) :
    (∃ j, Leads t.callers j key flight) ∨
      ∃ (moment : Moment limits (start maxEntries ttl store) events t) (j : Nat)
        (answer : LookupAnswer), moment.Lands j key flight answer := by
  induction hrun with
  | nil => simp [start] at h
  | @snoc events t u event hrun hstep ih =>
    have hbefore : (∃ j, Leads t.callers j key flight) ∨
        ∃ (moment : Moment limits (start maxEntries ttl store) events t) (j : Nat)
          (answer : LookupAnswer), moment.Lands j key flight answer := by
      rcases waits_of_step h hstep with hwaits | hjoined
      · exact ih hwaits
      · exact .inl (hrun.orderly.led hjoined)
    rcases hbefore with ⟨j, hleads⟩ | ⟨moment, j, answer, hlands⟩
    · rcases leads_or_finish_of_step hleads hstep with hleads | ⟨answer, hevent, hcaller⟩
      · exact .inl ⟨j, hleads⟩
      · exact .inr ⟨.last hrun hstep, j, answer, hevent, hcaller⟩
    · exact .inr ⟨moment.snoc hstep, j, answer, hlands⟩

/-- A caller that waits for a flight does so at the end of a run, or the flight has landed and the
caller is answered with its result. -/
theorem Run.waits_or_answered {before : List Event}
    (hreached : Run limits (start maxEntries ttl store) before s)
    (h : s.callers[i]? = some ⟨key, .waits flight⟩) (hrun : Run limits s events t) :
    t.callers[i]? = some ⟨key, .waits flight⟩ ∨
      ∃ (landing : Moment limits (start maxEntries ttl store) (before ++ events) t) (j : Nat)
        (answer : LookupAnswer), landing.Lands j key flight answer ∧
          t.callers[i]? = some ⟨key, .answered (.ofOutcome (answer.outcome key))⟩ := by
  induction hrun with
  | nil => exact .inl h
  | @snoc events t u event hrun hstep ih =>
    have hreach := hreached.trans hrun
    rw [← List.append_assoc]
    rcases ih with hwaits | ⟨landing, j, answer, hlands, hanswered⟩
    · refine (waits_or_answered_of_step hwaits hstep).imp_right ?_
      rintro ⟨outcome, hresult, hanswered⟩
      rcases hreach.leads_or_lands_of_waits hwaits with ⟨j, hleads⟩ | ⟨landing, j, answer, hlands⟩
      · rw [hreach.orderly.running hleads] at hresult
        cases hresult
      · obtain ⟨-, -, hlanded, -⟩ := hlands.landed
        obtain rfl := Option.some.inj (hresult.symm.trans hlanded)
        exact ⟨landing.snoc hstep, j, answer, hlands, hanswered⟩
    · exact .inr ⟨landing.snoc hstep, j, answer, hlands, answered_of_step hanswered hstep⟩

/-- No flight is registered when no request is running. -/
theorem Orderly.registered_eq_nil (h : s.Orderly) (hidle : s.Idle) : s.cache.registered = [] := by
  cases hregistered : s.cache.registered with
  | nil => rfl
  | cons entry rest =>
    have hflight : s.cache.flight? entry.1 = some entry.2 := by
      rw [Cache.flight?, hregistered]
      exact (Cache.lookup_cons_ite ..).trans (if_pos rfl)
    obtain ⟨i, caller, hcaller, -, hled⟩ := h.led hflight
    obtain ⟨answer, hanswered⟩ := hidle caller (List.mem_of_getElem? hcaller)
    rw [hanswered] at hled
    cases hled

/-- One caller leads and one is about to join. -/
def boarding : List Event :=
  [.arrive ⟨"GET:/orders"⟩, .board 0, .arrive ⟨"GET:/orders"⟩]

/-- The key is dropped, another key is requested while it is loaded, and the load unwinds. -/
def unwinding : List Event :=
  [.evict ⟨"GET:/orders"⟩, .arrive ⟨"GET:/users"⟩, .board 2, .load 2 (.found none), .finish 2,
    .load 0 .unwound, .finish 0, .wake 1]

end Reached

end ApiDrift.Traffic
