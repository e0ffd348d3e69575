import ApiDrift.Proofs.Cache.Loading
import ApiDrift.Proofs.Traffic.Ledger

/-!
# A load that nothing disturbs

A request leads a load, and nothing else happens until it has ended but that others join it and time
passes. Such a load passes through stages: its caller has missed the key, leads a flight, has looked
into the store, and is answered, and then the others get its result one by one. Each step keeps to
the stages, unless one of the others leads a flight, which nothing that may happen ends. So, when
everybody has settled, the load has landed.
-/

namespace ApiDrift.Traffic

variable {limits : Limits} {s t u : Traffic} {event : Event} {transitions : List Transition}
  {key : EndpointKey} {flight : FlightId} {answer : LookupAnswer} {error : StoreError}
  {i joins : Nat}

/-- A caller who may join a load of a key that begins now: one who comes later, or one who has
missed the key and not boarded yet. -/
def MayJoin (s : Traffic) (key : EndpointKey) (i : Nat) : Prop :=
  ∀ caller, s.callers[i]? = some caller → caller = ⟨key, .missed⟩

/-- What may happen while the next caller loads a key, if nothing does but that others join the load
and time passes. -/
inductive Undisturbed (s : Traffic) (key : EndpointKey) (answer : LookupAnswer) : Event → Prop
  /-- One more request for the key arrives. -/
  | arrive : Undisturbed s key answer (.arrive key)
  /-- The caller boards, or one who may join. -/
  | board {i : Nat} (hjoins : s.MayJoin key i) : Undisturbed s key answer (.board i)
  /-- The lookup of the caller in the store. -/
  | load : Undisturbed s key answer (.load s.callers.length answer)
  /-- The flight of the caller ends. -/
  | finish : Undisturbed s key answer (.finish s.callers.length)
  /-- One who joined gets the result. -/
  | wake {i : Nat} (hjoins : s.MayJoin key i) : Undisturbed s key answer (.wake i)
  /-- Time passes. -/
  | advance (milliseconds : Nat) : Undisturbed s key answer (.advance milliseconds)

/-- The next caller leads a load of a key from the first lookup to its end, and nothing else happens
but that others join the load and time passes. -/
structure LoneLoad (limits : Limits) (s : Traffic) (key : EndpointKey) (answer : LookupAnswer)
    (transitions : List Transition) (t : Traffic) : Prop where
  /-- The caller finds neither a fresh entry nor a flight to join. -/
  leads : ∃ flight, (s.cache.access s.now key).1 = .leads flight
  /-- What happens behind the first lookup. -/
  trace : Trace limits (s.arrive key) transitions t
  /-- Nothing else happens. -/
  undisturbed : ∀ transition ∈ transitions, s.Undisturbed key answer transition.event
  /-- The caller is answered. -/
  ended : ∃ found, t.callers[s.callers.length]? = some ⟨key, .answered found⟩
  /-- Nobody who may join is still under way. -/
  settled : ∀ i caller, s.MayJoin key i → t.callers[i]? = some caller →
    caller.phase = .missed ∨ ∃ found, caller.phase = .answered found

/-- Where the caller of a load stands, and where those may stand who may join it. -/
structure Posted (s : Traffic) (key : EndpointKey) (leader : Phase) (others : Phase → Prop)
    (t : Traffic) : Prop where
  /-- The caller stands there. -/
  leader : t.callers[s.callers.length]? = some ⟨key, leader⟩
  /-- The others stand there. -/
  others : ∀ i caller, i ≠ s.callers.length → s.MayJoin key i → t.callers[i]? = some caller →
    caller.key = key ∧ others caller.phase

/-- Another caller than the one of the load leads a flight of the key. -/
def Overtaken (s : Traffic) (key : EndpointKey) (t : Traffic) : Prop :=
  ∃ i flight, i ≠ s.callers.length ∧ s.MayJoin key i ∧ t.callers[i]? = some ⟨key, .leads flight⟩

/-- The stages of a load that fails with an error, after so many callers have joined it. -/
inductive LoadStage (s : Traffic) (key : EndpointKey) (answer : LookupAnswer) (error : StoreError) :
    (joins : Nat) → Traffic → Prop
  /-- The caller has missed the key, and so have all others. -/
  | missed {t : Traffic} (hcache : t.cache = s.cache.expired key)
    (hresults : t.results = s.results) (hposted : Posted s key .missed (· = .missed) t) :
    LoadStage s key answer error 0 t
  /-- The caller leads the flight, and the others may join it. -/
  | leads {joins : Nat} {t : Traffic}
    (hcache : t.cache = (s.cache.expired key).loading key (1 + joins) 0)
    (hresults : t.results = s.results)
    (hposted : Posted s key (.leads s.cache.nextFlight)
      (fun phase => phase = .missed ∨ phase = .waits s.cache.nextFlight) t) :
    LoadStage s key answer error joins t
  /-- The lookup of the caller in the store is over, and the others may still join. -/
  | loaded {joins : Nat} {t : Traffic}
    (hcache : t.cache = (s.cache.expired key).loading key (1 + joins) 1)
    (hresults : t.results = s.results)
    (hposted : Posted s key (.loaded s.cache.nextFlight answer)
      (fun phase => phase = .missed ∨ phase = .waits s.cache.nextFlight) t) :
    LoadStage s key answer error joins t
  /-- The caller is answered, and so are those who have joined, one by one. -/
  | landed {joins : Nat} {t : Traffic}
    (hcache : t.cache = (s.cache.expired key).failed (1 + joins))
    (hresults : t.results = (s.cache.nextFlight, .error error) :: s.results)
    (hposted : Posted s key (.answered answer)
      (fun phase => phase = .missed ∨ phase = .waits s.cache.nextFlight ∨
        phase = .answered (.failed error)) t) :
    LoadStage s key answer error joins t

namespace Posted

variable {leader leader' : Phase} {others others' : Phase → Prop}

/-- Callers stay where they stand when another one arrives. -/
theorem arrive (h : Posted s key leader others t) (hmissed : others .missed)
    (hcallers : u.callers = t.callers ++ [⟨key, .missed⟩]) : Posted s key leader others u where
  leader := by
    rw [hcallers, List.getElem?_append_left (List.getElem?_eq_some_iff.mp h.leader).1]
    exact h.leader
  others i caller hne hjoins hcaller := by
    rw [hcallers] at hcaller
    rcases getElem?_of_append hcaller with hcaller | ⟨-, rfl⟩
    · exact h.others i caller hne hjoins hcaller
    · exact ⟨rfl, hmissed⟩

/-- The caller of the load goes on. -/
theorem lead (h : Posted s key leader others t) (himp : ∀ phase, others phase → others' phase)
    (hcallers : u.callers = t.callers.set s.callers.length ⟨key, leader'⟩) :
    Posted s key leader' others' u where
  leader := by
    rw [hcallers]
    exact List.getElem?_set_self (List.getElem?_eq_some_iff.mp h.leader).1
  others i caller hne hjoins hcaller := by
    rw [hcallers, List.getElem?_set_ne (Ne.symm hne)] at hcaller
    exact (h.others i caller hne hjoins hcaller).imp_right (himp caller.phase)

/-- Another caller goes on. -/
theorem follow {phase : Phase} (h : Posted s key leader others t) (hne : i ≠ s.callers.length)
    (hphase : others phase) (hcallers : u.callers = t.callers.set i ⟨key, phase⟩) :
    Posted s key leader others u where
  leader := by
    rw [hcallers, List.getElem?_set_ne hne]
    exact h.leader
  others j caller hother hjoins hcaller := by
    rw [hcallers] at hcaller
    rcases getElem?_of_set hcaller with hcaller | ⟨-, rfl⟩
    · exact h.others j caller hother hjoins hcaller
    · exact ⟨rfl, hphase⟩

/-- Whoever may join is a caller of the key. -/
theorem key_eq {caller : Caller} (h : Posted s key leader others t) (hmay : s.MayJoin key i)
    (hcaller : t.callers[i]? = some caller) : caller.key = key := by
  by_cases hi : i = s.callers.length
  · subst hi
    rw [Option.some.inj (hcaller.symm.trans h.leader)]
  · exact (h.others i caller hi hmay hcaller).1

/-- Whoever stands elsewhere is not the caller of the load. -/
theorem ne_of_phase {caller : Caller} (h : Posted s key leader others t)
    (hcaller : t.callers[i]? = some caller) (hphase : caller.phase ≠ leader) :
    i ≠ s.callers.length := by
  rintro rfl
  exact hphase (congrArg Caller.phase (Option.some.inj (hcaller.symm.trans h.leader)))

/-- Whoever boards while the flight is registered joins it. -/
theorem join {misses loads : Nat}
    (h : Posted s key leader (fun phase => phase = .missed ∨ phase = .waits s.cache.nextFlight) t)
    (hleader : .missed ≠ leader)
    (hcache : t.cache = (s.cache.expired key).loading key misses loads)
    (hcaller : t.callers[i]? = some ⟨key, .missed⟩) :
    Transition.joins ⟨t, .board i, t.board i key⟩ = true ∧
      (t.board i key).cache = (s.cache.expired key).loading key (misses + 1) loads ∧
      Posted s key leader (fun phase => phase = .missed ∨ phase = .waits s.cache.nextFlight)
        (t.board i key) := by
  have hboard : t.cache.board t.now key =
      (.joins s.cache.nextFlight, (s.cache.expired key).loading key (misses + 1) loads) := by
    rw [hcache]
    exact Cache.board_loading (s.cache.entry?_expired key) misses loads
  have hne := h.ne_of_phase hcaller hleader
  refine ⟨?_, congrArg Prod.snd hboard, h.follow hne (.inr rfl) ?_⟩
  · rw [joins_board hcaller, hboard]
  · rw [Traffic.board, hboard]
    rfl

end Posted

/-- Another caller who boards while there is neither an entry of the key nor a flight leads one. -/
theorem overtaken_of_board (hne : i ≠ s.callers.length) (hboards : s.MayJoin key i)
    (hcaller : t.callers[i]? = some ⟨key, .missed⟩) (hentry : t.cache.entry? key = none)
    (hflight : t.cache.flight? key = none) : s.Overtaken key (t.board i key) := by
  refine ⟨i, t.cache.nextFlight, hne, hboards, ?_⟩
  rw [Traffic.board, Cache.board_of_absent hentry hflight]
  exact List.getElem?_set_self (List.getElem?_eq_some_iff.mp hcaller).1

namespace LoadStage

/-- Whoever may join is a caller of the key. -/
theorem key_eq {caller : Caller} (h : LoadStage s key answer error joins t)
    (hmay : s.MayJoin key i) (hcaller : t.callers[i]? = some caller) : caller.key = key := by
  cases h with
  | missed _ _ hposted | leads _ _ hposted | loaded _ _ hposted | landed _ _ hposted =>
    exact hposted.key_eq hmay hcaller

/-- A stage does not end while the cache, the results and the callers stay. -/
theorem of_same (h : LoadStage s key answer error joins t) (hcache : u.cache = t.cache)
    (hresults : u.results = t.results) (hcallers : u.callers = t.callers) :
    LoadStage s key answer error joins u := by
  have hposted : ∀ {leader others}, Posted s key leader others t → Posted s key leader others u :=
    fun h => ⟨hcallers ▸ h.leader, hcallers ▸ h.others⟩
  cases h with
  | missed hsame hsame' h => exact .missed (hcache.trans hsame) (hresults.trans hsame') (hposted h)
  | leads hsame hsame' h => exact .leads (hcache.trans hsame) (hresults.trans hsame') (hposted h)
  | loaded hsame hsame' h => exact .loaded (hcache.trans hsame) (hresults.trans hsame') (hposted h)
  | landed hsame hsame' h => exact .landed (hcache.trans hsame) (hresults.trans hsame') (hposted h)

/-- A request that arrives finds nothing, and does not change the stage. -/
theorem arrive (h : LoadStage s key answer error joins t) :
    LoadStage s key answer error joins (t.arrive key) := by
  have habsent := s.cache.entry?_expired key
  have hfound : ∀ {cache : Cache}, t.cache = cache → cache.entry? key = none →
      (t.arrive key).cache = cache ∧ (t.arrive key).callers = t.callers ++ [⟨key, .missed⟩] := by
    rintro _ rfl hnone
    unfold Traffic.arrive
    rw [Cache.firstLookup_of_entry?_eq_none hnone]
    exact ⟨rfl, rfl⟩
  cases h with
  | missed hcache hresults hposted =>
    obtain ⟨hsame, hcallers⟩ := hfound hcache habsent
    exact .missed hsame hresults (hposted.arrive rfl hcallers)
  | leads hcache hresults hposted =>
    obtain ⟨hsame, hcallers⟩ := hfound hcache habsent
    exact .leads hsame hresults (hposted.arrive (.inl rfl) hcallers)
  | loaded hcache hresults hposted =>
    obtain ⟨hsame, hcallers⟩ := hfound hcache habsent
    exact .loaded hsame hresults (hposted.arrive (.inl rfl) hcallers)
  | landed hcache hresults hposted =>
    obtain ⟨hsame, hcallers⟩ := hfound hcache habsent
    exact .landed hsame hresults (hposted.arrive (.inl rfl) hcallers)

/-- The caller who boards first leads the flight, and whoever boards while it runs joins it. -/
theorem board (h : LoadStage s key answer error joins t) (hfree : s.cache.flight? key = none)
    (hboards : s.MayJoin key i) (hcaller : t.callers[i]? = some ⟨key, .missed⟩) :
    LoadStage s key answer error
      (joins + if Transition.joins ⟨t, .board i, t.board i key⟩ then 1 else 0)
      (t.board i key) ∨ s.Overtaken key (t.board i key) := by
  have habsent := s.cache.entry?_expired key
  cases h with
  | missed hcache hresults hposted =>
    by_cases hi : i = s.callers.length
    · have hboard : t.cache.board t.now key =
          (.leads s.cache.nextFlight, (s.cache.expired key).loading key 1 0) := by
        rw [hcache]
        exact Cache.board_of_absent habsent hfree
      subst hi
      rw [joins_board hcaller, hboard]
      refine .inl (.leads (congrArg Prod.snd hboard) hresults (hposted.lead (fun _ => .inl) ?_))
      rw [Traffic.board, hboard]
      rfl
    · exact .inr (overtaken_of_board hi hboards hcaller (hcache ▸ habsent) (hcache ▸ hfree))
  | leads hcache hresults hposted =>
    obtain ⟨hjoins, hcache, hposted⟩ := hposted.join (by simp) hcache hcaller
    rw [hjoins]
    exact .inl (.leads hcache hresults hposted)
  | loaded hcache hresults hposted =>
    obtain ⟨hjoins, hcache, hposted⟩ := hposted.join (by simp) hcache hcaller
    rw [hjoins]
    exact .inl (.loaded hcache hresults hposted)
  | landed hcache hresults hposted =>
    have hne := hposted.ne_of_phase hcaller (by simp)
    exact .inr (overtaken_of_board hne hboards hcaller (hcache ▸ habsent) (hcache ▸ hfree))

/-- The caller of the load looks into the store. -/
theorem load (h : LoadStage s key answer error joins t) {other : EndpointKey}
    (hcaller : t.callers[s.callers.length]? = some ⟨other, .leads flight⟩) :
    LoadStage s key answer error joins (t.load s.callers.length other flight answer) := by
  cases h with
  | leads hcache hresults hposted =>
    cases hcaller.symm.trans hposted.leader
    exact .loaded (congrArg Cache.countLoad hcache) hresults (hposted.lead (fun _ => id) rfl)
  | missed hcache hresults hposted
  | loaded hcache hresults hposted
  | landed hcache hresults hposted => cases hcaller.symm.trans hposted.leader

/-- The flight of the caller ends. -/
theorem finish (h : LoadStage s key answer error joins t) (hfree : s.cache.flight? key = none)
    (hnew : s.cache.nextFlight ∉ s.cache.detached) (houtcome : answer.outcome key = .error error)
    {other : EndpointKey} {found : LookupAnswer}
    (hcaller : t.callers[s.callers.length]? = some ⟨other, .loaded flight found⟩) :
    LoadStage s key answer error joins (t.finish s.callers.length other flight found) := by
  cases h with
  | loaded hcache hresults hposted =>
    cases hcaller.symm.trans hposted.leader
    have hunregistered : (s.cache.expired key).flight? key = none := hfree
    have hends : ((s.cache.expired key).loading key (1 + joins) 1).finish t.now key
        s.cache.nextFlight (.error error) = (s.cache.expired key).failed (1 + joins) :=
      Cache.finish_loading hunregistered hnew ..
    refine .landed ?_ ?_ (hposted.lead (fun _ => Or.imp_right .inl) rfl)
    · rw [Traffic.finish, hcache, houtcome]
      exact hends
    · rw [Traffic.finish, hresults, houtcome]
  | missed hcache hresults hposted
  | leads hcache hresults hposted
  | landed hcache hresults hposted => cases hcaller.symm.trans hposted.leader

/-- Whoever joined the load gets its error. -/
theorem wake (h : LoadStage s key answer error joins t)
    (hunnamed : s.results.lookup s.cache.nextFlight = none) {outcome : LoadOutcome}
    (hwakes : s.MayJoin key i) (hcaller : t.callers[i]? = some ⟨key, .waits flight⟩)
    (hresult : t.results.lookup flight = some outcome) :
    LoadStage s key answer error joins (t.wake i key outcome) := by
  have hnone : t.results = s.results → flight ≠ s.cache.nextFlight := by
    rintro hresults rfl
    rw [hresults, hunnamed] at hresult
    cases hresult
  cases h with
  | missed hcache hresults hposted =>
    have hne := hposted.ne_of_phase hcaller (by simp)
    cases (hposted.others i _ hne hwakes hcaller).2
  | leads hcache hresults hposted | loaded hcache hresults hposted =>
    have hne := hposted.ne_of_phase hcaller (by simp)
    rcases (hposted.others i _ hne hwakes hcaller).2 with hphase | hphase
    · cases hphase
    · exact absurd (Phase.waits.inj hphase) (hnone hresults)
  | landed hcache hresults hposted =>
    have hne := hposted.ne_of_phase hcaller (by simp)
    obtain rfl : flight = s.cache.nextFlight := by
      rcases (hposted.others i _ hne hwakes hcaller).2 with hphase | hphase | hphase
      · cases hphase
      · exact Phase.waits.inj hphase
      · cases hphase
    rw [hresults, Cache.lookup_cons_ite, if_pos rfl] at hresult
    cases hresult
    exact .landed hcache hresults (hposted.follow hne (.inr (.inr rfl)) rfl)

/-- Every step that may happen keeps to the stages of the load, unless another caller leads one. -/
theorem step (h : LoadStage s key answer error joins t) (hfree : s.cache.flight? key = none)
    (hnew : s.cache.nextFlight ∉ s.cache.detached)
    (hunnamed : s.results.lookup s.cache.nextFlight = none)
    (houtcome : answer.outcome key = .error error)
    (hundisturbed : s.Undisturbed key answer event) (hstep : Step limits t event u) :
    LoadStage s key answer error (joins + if Transition.joins ⟨t, event, u⟩ then 1 else 0) u ∨
      s.Overtaken key u := by
  cases hundisturbed with
  | arrive =>
    cases hstep
    exact .inl h.arrive
  | board hboards =>
    cases hstep with
    | board hcaller =>
      cases h.key_eq hboards hcaller
      exact h.board hfree hboards hcaller
  | load =>
    cases hstep with
    | load hcaller => exact .inl (h.load hcaller)
  | finish =>
    cases hstep with
    | finish hcaller => exact .inl (h.finish hfree hnew houtcome hcaller)
  | wake hwakes =>
    cases hstep with
    | wake hcaller hresult =>
      cases h.key_eq hwakes hcaller
      exact .inl (h.wake hunnamed hwakes hcaller hresult)
  | advance milliseconds =>
    cases hstep
    exact .inl (h.of_same rfl rfl rfl)

/-- Whoever waits is not the caller of the load. -/
theorem ne_of_waits (h : LoadStage s key answer error joins t) {other : EndpointKey}
    (hwaits : t.callers[i]? = some ⟨other, .waits flight⟩) : i ≠ s.callers.length := by
  cases h with
  | missed _ _ hposted | leads _ _ hposted | loaded _ _ hposted | landed _ _ hposted =>
    exact hposted.ne_of_phase hwaits (by simp)

end LoadStage

/-- Nothing that may happen takes the lead from another caller. -/
theorem Overtaken.step (h : s.Overtaken key t) (hundisturbed : s.Undisturbed key answer event)
    (hstep : Step limits t event u) : s.Overtaken key u := by
  obtain ⟨i, flight, hne, hmay, hleads⟩ := h
  refine ⟨i, flight, hne, hmay, caller_of_step hleads (fun hevent => ?_) hstep⟩
  cases hundisturbed with
  | load | finish => exact hne (Option.some.inj hevent).symm
  | board =>
    cases hevent
    cases hstep with
    | board hcaller => cases hcaller.symm.trans hleads
  | wake =>
    cases hevent
    cases hstep with
    | wake hcaller => cases hcaller.symm.trans hleads
  | arrive | advance => cases hevent

/-- Behind the first lookup of the caller the load is at its first stage. -/
theorem loadStage_arrive (hfirst : s.cache.firstLookup s.now key = (none, s.cache.expired key)) :
    LoadStage s key answer error 0 (s.arrive key) := by
  have hcallers : (s.arrive key).callers = s.callers ++ [⟨key, .missed⟩] := by
    rw [arrive, hfirst]
    rfl
  refine .missed (by rw [arrive, hfirst]) rfl ⟨?_, fun i caller hne hjoins hcaller => ?_⟩
  · rw [hcallers, List.getElem?_concat_length]
  · rw [hcallers] at hcaller
    rcases getElem?_of_append hcaller with hcaller | ⟨hi, -⟩
    · cases hjoins caller hcaller
      exact ⟨rfl, rfl⟩
    · exact absurd hi hne

/-- Whoever joined a flight in a trace waits for it at the end, or is answered. -/
theorem Trace.joined (htrace : Trace limits s transitions t) {transition : Transition}
    (hmem : transition ∈ transitions) (hjoins : transition.joins = true) :
    ∃ i key flight, transition.event = .board i ∧
      (t.callers[i]? = some ⟨key, .waits flight⟩ ∨
        ∃ found, t.callers[i]? = some ⟨key, .answered found⟩) := by
  induction htrace with
  | nil => cases hmem
  | snoc htrace hstep ih =>
    rcases List.mem_append.mp hmem with hmem | hlast
    · obtain ⟨i, key, flight, hevent, hwaits | ⟨found, hanswered⟩⟩ := ih hmem
      · refine ⟨i, key, flight, hevent, (waits_or_answered_of_step hwaits hstep).imp_right ?_⟩
        rintro ⟨outcome, -, hanswered⟩
        exact ⟨_, hanswered⟩
      · exact ⟨i, key, flight, hevent, .inr ⟨found, answered_of_step hanswered hstep⟩⟩
    · rw [List.mem_singleton] at hlast
      subst hlast
      obtain ⟨i, key, flight, hevent, hwaits⟩ := Transition.exists_waits_of_joins hjoins
      exact ⟨i, key, flight, hevent, .inl hwaits⟩

namespace LoneLoad

variable {maxEntries ttl : Nat} {store : Store} {events : List Event}

/-- A load that nothing disturbs keeps to its stages, and only other callers join it, unless one of
them leads. -/
theorem stage (hrun : Run limits (start maxEntries ttl store) events s)
    (h : LoneLoad limits s key answer transitions t)
    (houtcome : answer.outcome key = .error error) :
    (LoadStage s key answer error (transitions.countP Transition.joins) t ∧
      ∀ transition ∈ transitions, transition.joins = true →
        ∀ i, transition.event = .board i → i ≠ s.callers.length) ∨ s.Overtaken key t := by
  obtain ⟨⟨flight, hleads⟩, htrace, hundisturbed, -, -⟩ := h
  obtain ⟨hfirst, -, hfree⟩ := Cache.absent_of_access hleads
  have hnew : s.cache.nextFlight ∉ s.cache.detached := fun hmem =>
    Nat.lt_irrefl _ (hrun.exclusive.detached hmem).1
  have hunnamed : s.results.lookup s.cache.nextFlight = none := by
    by_contra hended
    exact Nat.lt_irrefl _ (hrun.orderly.ended hended)
  induction htrace with
  | nil =>
    refine .inl ⟨loadStage_arrive hfirst, fun transition hmem => ?_⟩
    cases hmem
  | @snoc transitions t u event htrace hstep ih =>
    obtain ⟨hbefore, hlast⟩ := List.forall_mem_append.mp hundisturbed
    have hevent : s.Undisturbed key answer event := hlast _ (List.mem_singleton_self _)
    rcases ih hbefore with ⟨hstage, hjoined⟩ | hovertaken
    · refine (hstage.step hfree hnew hunnamed houtcome hevent hstep).imp_left fun hstage => ?_
      rw [List.countP_append, List.countP_singleton]
      refine ⟨hstage, List.forall_mem_append.mpr ⟨hjoined, ?_⟩⟩
      intro transition hmem hjoins i hboard
      rw [List.mem_singleton] at hmem
      subst hmem
      obtain ⟨j, other, flight, hboards, hwaits⟩ := Transition.exists_waits_of_joins hjoins
      obtain rfl : i = j := Event.board.inj (hboard.symm.trans hboards)
      exact hstage.ne_of_waits hwaits
    · exact .inr (hovertaken.step hevent hstep)

/-- A load that nothing disturbs is not overtaken when everybody has settled. -/
theorem not_overtaken (h : LoneLoad limits s key answer transitions t) : ¬s.Overtaken key t := by
  rintro ⟨i, flight, -, hmay, hleads⟩
  rcases h.settled i _ hmay hleads with hmissed | ⟨found, hanswered⟩
  · cases hmissed
  · cases hanswered

/-- A load that nothing disturbs lands, and everybody who joined it gets its error. -/
theorem landed (hrun : Run limits (start maxEntries ttl store) events s)
    (h : LoneLoad limits s key answer transitions t)
    (houtcome : answer.outcome key = .error error) :
    t.cache = (s.cache.expired key).failed (1 + transitions.countP Transition.joins) ∧
      t.results = (s.cache.nextFlight, .error error) :: s.results ∧
      Posted s key (.answered answer)
        (fun phase => phase = .missed ∨ phase = .answered (.failed error)) t := by
  obtain ⟨found, hended⟩ := h.ended
  obtain ⟨hstage, -⟩ := (h.stage hrun houtcome).resolve_right h.not_overtaken
  generalize transitions.countP Transition.joins = joins at hstage ⊢
  cases hstage with
  | landed hcache hresults hposted =>
    refine ⟨hcache, hresults, hposted.leader, fun i caller hne hjoins hcaller => ?_⟩
    obtain ⟨hkey, hphase⟩ := hposted.others i caller hne hjoins hcaller
    refine ⟨hkey, hphase.imp_right fun hphase => hphase.resolve_left fun hwaits => ?_⟩
    rcases h.settled i caller hjoins hcaller with hsettled | ⟨answer, hsettled⟩
    · cases hwaits.symm.trans hsettled
    · cases hwaits.symm.trans hsettled
  | missed hcache hresults hposted
  | leads hcache hresults hposted
  | loaded hcache hresults hposted => cases hended.symm.trans hposted.leader

/-- Everybody who joined a load that nothing disturbs is another caller, and gets its error. -/
theorem joined (hrun : Run limits (start maxEntries ttl store) events s)
    (h : LoneLoad limits s key answer transitions t) (houtcome : answer.outcome key = .error error)
    {transition : Transition} (hmem : transition ∈ transitions) (hjoins : transition.joins = true) :
    ∃ i ≠ s.callers.length, transition.event = .board i ∧
      t.callers[i]? = some ⟨key, .answered (.failed error)⟩ := by
  obtain ⟨-, -, hposted⟩ := h.landed hrun houtcome
  obtain ⟨-, hothers⟩ := (h.stage hrun houtcome).resolve_right h.not_overtaken
  obtain ⟨i, other, flight, hevent, hjoined⟩ := h.trace.joined hmem hjoins
  have hne := hothers transition hmem hjoins i hevent
  have hmay : s.MayJoin key i := by
    have hundisturbed := h.undisturbed transition hmem
    rw [hevent] at hundisturbed
    cases hundisturbed with
    | board hmay => exact hmay
  refine ⟨i, hne, hevent, ?_⟩
  rcases hjoined with hwaits | ⟨found, hanswered⟩
  · obtain ⟨-, hmissed | hanswered⟩ := hposted.others i _ hne hmay hwaits
    · cases hmissed
    · cases hanswered
  · obtain ⟨hkey, hmissed | hphase⟩ := hposted.others i _ hne hmay hanswered
    · cases hmissed
    · obtain rfl : other = key := hkey
      rwa [show LookupAnswer.failed error = found from (Phase.answered.inj hphase).symm]

/-- Whoever may not join a load that nothing disturbs stays where they are. -/
theorem others (h : LoneLoad limits s key answer transitions t) {caller : Caller}
    (hcaller : s.callers[i]? = some caller) (hne : caller ≠ ⟨key, .missed⟩) :
    t.callers[i]? = some caller := by
  obtain ⟨-, htrace, hundisturbed, -, -⟩ := h
  have hmay : ¬s.MayJoin key i := fun hmay => hne (hmay caller hcaller)
  have hlt := (List.getElem?_eq_some_iff.mp hcaller).1
  induction htrace with
  | nil => exact (List.getElem?_append_left hlt).trans hcaller
  | @snoc transitions t u event htrace hstep ih =>
    obtain ⟨hbefore, hlast⟩ := List.forall_mem_append.mp hundisturbed
    have hundisturbed : s.Undisturbed key answer event := hlast _ (List.mem_singleton_self _)
    refine caller_of_step (ih hbefore) (fun hevent => ?_) hstep
    cases hundisturbed with
    | load | finish => exact Nat.ne_of_lt hlt (Option.some.inj hevent).symm
    | board hjoins | wake hjoins =>
      cases hevent
      exact hmay hjoins
    | arrive | advance => cases hevent

end LoneLoad

end ApiDrift.Traffic
