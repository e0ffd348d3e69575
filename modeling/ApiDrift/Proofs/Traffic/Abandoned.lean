import ApiDrift.Proofs.Traffic.LoneLoad

/-!
# Loads that leave nothing behind

A load that fails, or whose leader unwinds, leaves the cache as it was before, but for an expired
entry of its key and for what is counted: everybody who joined it is answered with the same error,
and the next request for the key leads a load of its own. A load whose key was dropped leaves no
entry either, but its result goes to its leader and to everybody who joined it.
-/

namespace ApiDrift.Traffic

variable {limits : Limits} {s t u : Traffic} {transitions : List Transition} {key : EndpointKey}
  {flight : FlightId} {answer : LookupAnswer} {error : StoreError} {i : Nat}

/-- What is left of a load that nothing disturbed and that ended with an error: an expired entry of
its key is gone, and what happened is counted. -/
structure LeavesNothing (s : Traffic) (key : EndpointKey) (answer : LookupAnswer)
    (error : StoreError) (transitions : List Transition) (t : Traffic) : Prop where
  /-- Only what is counted has changed, and the entries of the key are gone. -/
  cache : t.cache = { s.cache with
    entries := Cache.without key s.cache.entries
    nextFlight := s.cache.nextFlight + 1
    counters := { s.cache.counters with
      misses := s.cache.counters.misses + (1 + transitions.countP Transition.joins)
      loads := s.cache.counters.loads + 1
      loadFailures := s.cache.counters.loadFailures + 1
      expirations := s.cache.counters.expirations +
        if (s.cache.entry? key).isSome then 1 else 0 } }
  /-- What is gone had expired. -/
  expired : ∀ entry ∈ s.cache.entries, entry.key = key → s.cache.isFresh s.now entry = false
  /-- The flight has its result. -/
  results : t.results = (s.cache.nextFlight, .error error) :: s.results
  /-- The caller is answered. -/
  leader : t.callers[s.callers.length]? = some ⟨key, .answered answer⟩
  /-- Everybody who joined is another caller, and is answered with the error. -/
  joined : ∀ transition ∈ transitions, transition.joins = true →
    ∃ i ≠ s.callers.length, transition.event = .board i ∧
      t.callers[i]? = some ⟨key, .answered (.failed error)⟩
  /-- Everybody else who was there is where they were. -/
  others : ∀ (i : Nat) (caller : Caller), s.callers[i]? = some caller → caller ≠ ⟨key, .missed⟩ →
    t.callers[i]? = some caller
  /-- The next request for the key leads a load of its own. -/
  next : ∀ now, (t.cache.access now key).1 = .leads t.cache.nextFlight

section Reached

variable {maxEntries ttl : Nat} {store : Store} {events : List Event}

/-- A load that nothing disturbs and that ends with an error leaves nothing. -/
theorem LoneLoad.leavesNothing (hrun : Run limits (start maxEntries ttl store) events s)
    (h : LoneLoad limits s key answer transitions t)
    (houtcome : answer.outcome key = .error error) :
    LeavesNothing s key answer error transitions t := by
  obtain ⟨flight, hleads⟩ := h.leads
  obtain ⟨-, hnone, hfree⟩ := Cache.absent_of_access hleads
  obtain ⟨hcache, hresults, hposted⟩ := h.landed hrun houtcome
  constructor
  case cache => exact hcache
  case expired =>
    intro entry hmem hkey
    exact hrun.tidy.isFresh_eq_false hnone hmem hkey
  case results => exact hresults
  case leader => exact hposted.leader
  case joined =>
    intro transition hmem hjoins
    exact h.joined hrun houtcome hmem hjoins
  case others =>
    intro i caller hcaller hne
    exact h.others hcaller hne
  case next =>
    intro now
    rw [hcache]
    exact Cache.access_of_absent (s.cache.entry?_expired key) hfree

/-- A caller is answered with a model, or it is with its next step. -/
def Gets (limits : Limits) (t : Traffic) (i : Nat) (key : EndpointKey) (model : CachedModel) :
    Prop :=
  t.callers[i]? = some ⟨key, .answered (.found model)⟩ ∨
    ∃ u, Step limits t (.wake i) u ∧ u.callers[i]? = some ⟨key, .answered (.found model)⟩

/-- Whoever waited for a flight at some moment of a run waits for it as long as it runs: a flight
that has landed has a result, and a running one has none. -/
theorem Run.waits_of_leads (hrun : Run limits (start maxEntries ttl store) events s)
    (hleads : Leads s.callers i key flight)
    {moment : Moment limits (start maxEntries ttl store) events s} {j : Nat}
    (hwaits : moment.target.callers[j]? = some ⟨key, .waits flight⟩) :
    s.callers[j]? = some ⟨key, .waits flight⟩ := by
  have hafter := (moment.reached.snoc moment.step).waits_or_answered hwaits moment.rest
  refine hafter.resolve_right ?_
  rintro ⟨landing, k, answer, hlands, -⟩
  obtain ⟨-, -, hresult, -⟩ := hlands.landed
  rw [hrun.orderly.running hleads] at hresult
  cases hresult

/-- Whoever waits for a flight with a result gets it. -/
theorem Run.gets (hrun : Run limits (start maxEntries ttl store) events t) {model : CachedModel}
    (hwaits : t.callers[i]? = some ⟨key, .waits flight⟩)
    (hresult : t.results.lookup flight = some (.ok model)) {later : List Event}
    (hlater : Run limits t later u) : Gets limits u i key model := by
  have hresult := hlater.lookup_results hrun.orderly hresult
  rcases hrun.waits_or_answered hwaits hlater with hwaits | ⟨landing, j, answer, hlands, hanswered⟩
  · refine .inr ⟨_, .wake hwaits hresult, ?_⟩
    exact List.getElem?_set_self (List.getElem?_eq_some_iff.mp hwaits).1
  · obtain ⟨-, -, hlanded, -⟩ := hlands.landed
    rw [Option.some.inj (hlanded.symm.trans hresult)] at hanswered
    exact .inl hanswered

/-- The end of a load whose key was dropped leaves nothing in the cache, and its result goes to its
leader and to everybody who joined it. -/
theorem Run.finish_of_detaches (hrun : Run limits (start maxEntries ttl store) events s)
    {moment : Moment limits (start maxEntries ttl store) events s}
    (hdetaches : moment.Detaches key flight) {model : CachedModel}
    (hcaller : s.callers[i]? = some ⟨key, .loaded flight (.found model)⟩)
    (hstep : Step limits s (.finish i) u) :
    u.cache = { s.cache with detached := s.cache.detached.erase flight } ∧
      u.callers[i]? = some ⟨key, .answered (.found model)⟩ ∧
      ∀ (joined : Moment limits (start maxEntries ttl store) events s) (j : Nat),
        joined.target.callers[j]? = some ⟨key, .waits flight⟩ →
          ∀ later v, Run limits u later v → Gets limits v j key model := by
  have hleads : Leads s.callers i key flight := ⟨_, hcaller, rfl, rfl⟩
  have hunregistered := hdetaches.flight?_ne
  have hdetached := (hrun.orderly.registered hleads).resolve_left hunregistered
  have hreached := hrun.snoc hstep
  cases hstep with
  | finish hphase =>
    cases hcaller.symm.trans hphase
    refine ⟨Cache.finish_of_detached hdetached hunregistered model, ?_, ?_⟩
    · exact List.getElem?_set_self (List.getElem?_eq_some_iff.mp hcaller).1
    · intro joined j hjoined later v hlater
      have hwaits := hrun.waits_of_leads hleads hjoined
      have hne : i ≠ j := by
        rintro rfl
        cases hcaller.symm.trans hwaits
      refine hreached.gets ((List.getElem?_set_ne hne).trans hwaits) ?_ hlater
      exact (Cache.lookup_cons_ite ..).trans (if_pos rfl)

/-- A load that ends with an error leaves nothing in the cache, in every state that a run reaches.
If nothing else happens than that others join it and time passes, then behind it the entries are the
same in the same order but for an expired one of its key, no other flight has changed, the load and
its failure are counted and every miss, everybody who joined it is answered with its error, which is
that the load was abandoned if the caller unwound, and the next request for the key leads a load. A
load that finds something and whose key was dropped changes nothing in the cache when it ends, and
its result goes to its leader and to everybody who ever joined it. -/
theorem Run.load_leaves_nothing (hrun : Run limits (start maxEntries ttl store) events s) :
    (∀ (key : EndpointKey) (answer : LookupAnswer) (error : StoreError)
      (transitions : List Transition) (t : Traffic), LoneLoad limits s key answer transitions t →
        (answer = .failed error ∨ answer = .unwound ∧ error = .loadAbandoned key.text) →
          LeavesNothing s key answer error transitions t) ∧
    ∀ (moment : Moment limits (start maxEntries ttl store) events s) (i : Nat)
      (key : EndpointKey) (flight : FlightId) (model : CachedModel) (u : Traffic),
        moment.Detaches key flight → s.callers[i]? = some ⟨key, .loaded flight (.found model)⟩ →
          Step limits s (.finish i) u →
            u.cache = { s.cache with detached := s.cache.detached.erase flight } ∧
            u.callers[i]? = some ⟨key, .answered (.found model)⟩ ∧
            ∀ (joined : Moment limits (start maxEntries ttl store) events s) (j : Nat),
              joined.target.callers[j]? = some ⟨key, .waits flight⟩ →
                ∀ later v, Run limits u later v → Gets limits v j key model := by
  constructor
  · rintro key answer error transitions t hload (rfl | ⟨rfl, rfl⟩)
    · exact hload.leavesNothing hrun rfl
    · exact hload.leavesNothing hrun rfl
  · intro moment i key flight model u hdetaches hcaller hstep
    exact hrun.finish_of_detaches hdetaches hcaller hstep

/-- A key is cached, another one is loaded and joined. -/
def joining : List Event :=
  [.arrive ⟨"GET:/users"⟩, .board 0, .load 0 (.found none), .finish 0, .arrive ⟨"GET:/orders"⟩,
    .board 1, .arrive ⟨"GET:/orders"⟩]

/-- The key that is loaded is dropped, and the entry of the other one expires. -/
def dropping : List Event :=
  [.evict ⟨"GET:/orders"⟩, .advance 5, .load 1 (.found none)]

/-- The expired key is loaded and joined, and the load unwinds. -/
def abandoning : List Event :=
  [.board 3, .arrive ⟨"GET:/users"⟩, .board 4, .advance 1, .load 3 .unwound, .finish 3, .wake 4]

/-- Of the load that unwound there stays no entry, and who joined it is answered that it was
abandoned. The load that was dropped and then ends changes no entry either, and who joined it can
have its result. -/
theorem load_leaves_nothing_abandoning :
    ∃ (s t u : Traffic) (transitions : List Transition),
      (start 4 5 .empty).run? {} (joining ++ .board 2 :: dropping) = some s ∧
        Trace {} (s.arrive ⟨"GET:/users"⟩) transitions t ∧
          transitions.map Transition.event = abandoning ∧ s.step? {} (.finish 1) = some u ∧
            s.cache.entries.map CacheEntry.key = [⟨"GET:/users"⟩] ∧ t.cache.entries = [] ∧
            transitions.countP Transition.joins = 1 ∧
            t.callers[4]? =
              some ⟨⟨"GET:/users"⟩, .answered (.failed (.loadAbandoned "GET:/users"))⟩ ∧
            (t.cache.access t.now ⟨"GET:/users"⟩).1 = .leads 3 ∧
            u.cache.entries = s.cache.entries ∧ u.cache.counters = s.cache.counters ∧
              Gets {} u 2 ⟨"GET:/orders"⟩ none := by
  have hdrops : (((start 4 5 .empty).run? {} joining).bind fun r => (r.step? {} (.board 2)).bind
      fun v => (v.run? {} dropping).map fun s =>
        (v.callers[2]?, s.callers, s.cache.entries.map CacheEntry.key)) =
      some (some ⟨⟨"GET:/orders"⟩, .waits 1⟩, [⟨⟨"GET:/users"⟩, .answered (.found none)⟩,
        ⟨⟨"GET:/orders"⟩, .loaded 1 (.found none)⟩, ⟨⟨"GET:/orders"⟩, .waits 1⟩],
        [⟨"GET:/users"⟩]) := by decide +kernel
  have hidle : ((start 4 5 .empty).run? {} (joining ++ .board 2 :: dropping)).map (fun s =>
      ((s.cache.access s.now ⟨"GET:/users"⟩).1.phase, s.cache.nextFlight,
        s.cache.flight? ⟨"GET:/orders"⟩)) = some (.leads 2, 2, none) := by decide +kernel
  have hends : ((start 4 5 .empty).run? {} (joining ++ .board 2 :: dropping)).bind (fun s =>
      (s.step? {} (.finish 1)).bind fun _ =>
        ((s.arrive ⟨"GET:/users"⟩).run? {} abandoning).map fun t =>
          (s.cache.counters.misses, t.callers, t.cache.counters.misses)) =
      some (3, [⟨⟨"GET:/users"⟩, .answered (.found none)⟩,
        ⟨⟨"GET:/orders"⟩, .loaded 1 (.found none)⟩, ⟨⟨"GET:/orders"⟩, .waits 1⟩,
        ⟨⟨"GET:/users"⟩, .answered .unwound⟩,
        ⟨⟨"GET:/users"⟩, .answered (.failed (.loadAbandoned "GET:/users"))⟩], 5) := by
    decide +kernel
  obtain ⟨r, hr, hdrops⟩ := Option.bind_eq_some_iff.mp hdrops
  obtain ⟨v, hv, hdrops⟩ := Option.bind_eq_some_iff.mp hdrops
  obtain ⟨s, hs, hfacts⟩ := Option.map_eq_some_iff.mp hdrops
  have hall : (start 4 5 .empty).run? {} (joining ++ .board 2 :: dropping) = some s := by
    rw [run?, List.foldlM_append]
    exact Option.bind_eq_some_iff.mpr ⟨r, hr, Option.bind_eq_some_iff.mpr ⟨v, hv, hs⟩⟩
  rw [hall, Option.map_some, Option.some.injEq] at hidle
  rw [hall, Option.bind_some] at hends
  obtain ⟨u, hu, hends⟩ := Option.bind_eq_some_iff.mp hends
  obtain ⟨t, ht, hends⟩ := Option.map_eq_some_iff.mp hends
  simp only [Prod.mk.injEq] at hfacts hidle hends
  obtain ⟨hwaits, hcallers, hkeys⟩ := hfacts
  obtain ⟨hleads, hnext, hflight⟩ := hidle
  obtain ⟨hbefore, hanswers, hafter⟩ := hends
  have hlength : s.callers.length = 3 := congrArg List.length hcallers
  have hmay : ∀ {i}, 3 ≤ i → s.MayJoin ⟨"GET:/users"⟩ i := by
    intro i hi caller hcaller
    exact absurd (List.getElem?_eq_some_iff.mp hcaller).1 (by omega)
  obtain ⟨transitions, hevents, htrace⟩ := (run_of_run? ht).exists_trace
  have hundisturbed : ∀ event ∈ abandoning, s.Undisturbed ⟨"GET:/users"⟩ .unwound event := by
    simp only [abandoning, List.forall_mem_cons]
    refine ⟨.board (hmay (by omega)), .arrive, .board (hmay (by omega)), .advance 1,
      hlength ▸ .load, hlength ▸ .finish, .wake (hmay (by omega)), fun _ hmem => ?_⟩
    cases hmem
  have hload : LoneLoad {} s ⟨"GET:/users"⟩ .unwound transitions t := by
    constructor
    case leads =>
      revert hleads
      cases (s.cache.access s.now ⟨"GET:/users"⟩).1 <;> simp [Boarding.phase]
    case trace => exact htrace
    case undisturbed =>
      intro transition hmem
      refine hundisturbed _ (hevents ▸ List.mem_map_of_mem hmem)
    case ended =>
      rw [hlength, hanswers]
      exact ⟨_, rfl⟩
    case settled =>
      intro i caller hjoins hcaller
      rw [MayJoin, hcallers] at hjoins
      rw [hanswers] at hcaller
      rcases i with _ | _ | _ | _ | _ | i
      · cases hcaller
        exact .inr ⟨_, rfl⟩
      · exact absurd (hjoins _ rfl) (by simp)
      · exact absurd (hjoins _ rfl) (by simp)
      · cases hcaller
        exact .inr ⟨_, rfl⟩
      · cases hcaller
        exact .inr ⟨_, rfl⟩
      · cases hcaller
  have hrun := run_of_run? hall
  obtain ⟨habandons, hdetached⟩ := hrun.load_leaves_nothing
  have hnothing := habandons _ _ _ transitions t hload (.inr ⟨rfl, rfl⟩)
  let joined : Moment {} (start 4 5 .empty) (joining ++ .board 2 :: dropping) s :=
    { before := joining
      event := .board 2
      after := dropping
      source := r
      target := v
      events_eq := rfl
      reached := run_of_run? hr
      step := step_of_step? hv
      rest := run_of_run? hs }
  have hfirst : s.callers[1]? = some ⟨⟨"GET:/orders"⟩, .loaded 1 (.found none)⟩ := by
    rw [hcallers]
    rfl
  obtain ⟨moment, hdetaches⟩ :=
    (hrun.registered_or_detached ⟨_, hfirst, rfl, rfl⟩).resolve_left (by simp [hflight])
  obtain ⟨hcache, -, hgets⟩ := hdetached moment 1 _ 1 none u hdetaches hfirst (step_of_step? hu)
  refine ⟨s, t, u, transitions, hall, htrace, hevents, hu, hkeys, ?_, ?_, ?_, ?_, ?_, ?_,
    hgets joined 2 hwaits [] u .nil⟩
  · rw [hnothing.cache]
    refine List.filter_eq_nil_iff.mpr fun entry hmem => ?_
    have hkey : entry.key ∈ [⟨"GET:/users"⟩] := hkeys ▸ List.mem_map_of_mem hmem
    simpa using hkey
  · rw [hnothing.cache] at hafter
    dsimp only at hafter
    omega
  · rw [hanswers]
    rfl
  · rw [hnothing.next, hnothing.cache, hnext]
  · rw [hcache]
  · rw [hcache]

end Reached

end ApiDrift.Traffic
