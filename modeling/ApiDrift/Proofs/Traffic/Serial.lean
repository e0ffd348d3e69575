import ApiDrift.Proofs.System.Settled
import ApiDrift.Proofs.Traffic

/-!
# Requests and batches without interference

What a system does for a request, and for a batch that it takes in, are runs of the traffic in which
the steps of that request or batch follow one another without a step of anybody else. So what holds
of all interleavings holds of requests and batches that are served one after another.
-/

namespace ApiDrift.Traffic

/-- The traffic has the store, the cache and the time of a system. -/
structure Shows (s : Traffic) (system : System) : Prop where
  /-- The stores are the same. -/
  store : s.store = system.store
  /-- The caches are the same. -/
  cache : s.cache = system.cache
  /-- The times are the same. -/
  now : s.now = system.now

/-- The last item is replaced. -/
theorem set_length_append {α : Type} (items : List α) (item new : α) :
    (items ++ [item]).set items.length new = items ++ [new] := by
  simp

/-- The outcome of a load that was answered is the outcome itself. -/
@[simp] theorem outcome_ofOutcome (key : EndpointKey) (outcome : LoadOutcome) :
    (LookupAnswer.ofOutcome outcome).outcome key = outcome := by
  cases outcome <;> rfl

section

variable {limits : Limits} {s : Traffic} {system : System}

/-- What a system finds in its store is allowed to be found in the same store. -/
theorem allows_load (hstore : s.store = system.store) (key : EndpointKey) :
    s.Allows key (.ofOutcome (system.load key).1) := by
  unfold System.load
  dsimp only
  cases system.lookupFault.next.1 with
  | some error => trivial
  | none => exact congrArg (Store.find? · key) hstore.symm

/-- A leader that is not interfered with looks into the store and ends its flight. -/
theorem Shows.exists_run_lead (h : s.Shows system) {key : EndpointKey} {flight : FlightId}
    {callers : List Caller} (hcallers : s.callers = callers ++ [⟨key, .leads flight⟩]) :
    ∃ events t, Run limits s events t ∧
      t.Shows ((system.load key).2.finish key flight (system.load key).1) ∧
      t.intakes = s.intakes ∧
      t.callers = callers ++ [⟨key, .answered (.ofOutcome (system.load key).1)⟩] := by
  obtain ⟨hstore, hcache, hnow⟩ := h
  have hleads : s.callers[callers.length]? = some ⟨key, .leads flight⟩ := by
    rw [hcallers]
    simp
  have hload : Run limits s _ _ := Run.nil.snoc (.load hleads (allows_load hstore key))
  have hloaded : (s.load callers.length key flight (.ofOutcome (system.load key).1)).callers =
      callers ++ [⟨key, .loaded flight (.ofOutcome (system.load key).1)⟩] := by
    rw [load, hcallers, set_length_append]
  have hends : (s.load callers.length key flight (.ofOutcome (system.load key).1)).callers[
      callers.length]? = some ⟨key, .loaded flight (.ofOutcome (system.load key).1)⟩ := by
    rw [hloaded]
    simp
  refine ⟨_, _, hload.snoc (.finish hends), ⟨hstore, ?_, hnow⟩, rfl, ?_⟩
  · rw [finish, outcome_ofOutcome, load, hcache, hnow]
    rfl
  · rw [finish, hloaded, set_length_append]

/-- A request that is served without interference is a run that ends with its answer. -/
theorem Shows.exists_run_get (h : s.Shows system) {key : EndpointKey}
    (hquiet : system.cache.flight? key = none) :
    ∃ events t, Run limits s events t ∧ t.Shows (system.get key).2 ∧ t.intakes = s.intakes ∧
      t.callers = s.callers ++ [⟨key, .answered (.ofOutcome (system.get key).1)⟩] := by
  obtain ⟨hstore, hcache, hnow⟩ := h
  have harrive : Run limits s [.arrive key] (s.arrive key) := Run.nil.snoc (.arrive key)
  have hsame := Cache.sameFlights_firstLookup system.cache system.now key
  unfold System.get System.access Cache.access
  cases hfirst : system.cache.firstLookup system.now key with
  | mk answer looked =>
    rw [hfirst] at hsame
    have hcallers : (s.arrive key).callers = s.callers ++ [⟨key, .ofFirstLookup answer⟩] := by
      rw [arrive, hcache, hnow, hfirst]
    have hlooked : (s.arrive key).cache = looked := by rw [arrive, hcache, hnow, hfirst]
    have hnow' : (s.arrive key).now = system.now := hnow
    cases answer with
    | some model => exact ⟨_, _, harrive, ⟨hstore, hlooked, hnow⟩, rfl, hcallers⟩
    | none =>
      have hmissed : (s.arrive key).callers[s.callers.length]? = some ⟨key, .missed⟩ := by
        rw [hcallers]
        simp [Phase.ofFirstLookup]
      have hboard := harrive.snoc (.board hmissed)
      have hcases := Cache.board_cases looked system.now key
      dsimp only
      cases hboarding : looked.board system.now key with
      | mk boarding after =>
        rw [hboarding] at hcases
        have hphase : ((s.arrive key).board s.callers.length key).callers =
            s.callers ++ [⟨key, boarding.phase⟩] := by
          rw [board, hcallers, set_length_append, hlooked, hnow', hboarding]
        have hafter : ((s.arrive key).board s.callers.length key).cache = after := by
          rw [board, hlooked, hnow', hboarding]
        cases boarding with
        | hit model => exact ⟨_, _, hboard, ⟨hstore, hafter, hnow⟩, rfl, hphase⟩
        | joins flight =>
          rcases hcases with ⟨_, h, -⟩ | ⟨joined, -, hjoined, -⟩ | ⟨h, -⟩
          · cases h
          · rw [hsame.flight?_eq, hquiet] at hjoined
            cases hjoined
          · cases h
        | leads flight =>
          have hshows : ((s.arrive key).board s.callers.length key).Shows
              { system with cache := after } := ⟨hstore, hafter, hnow⟩
          obtain ⟨events, t, hrun, ht, hintakes, hanswer⟩ := hshows.exists_run_lead hphase
          exact ⟨_, t, hboard.trans hrun, ht, hintakes, hanswer⟩

/-- The models of a batch are written without interference. -/
theorem Shows.exists_run_write (h : s.Shows system) {intakes : List Intake} {models : List Model}
    {batch : List (EndpointKey × Model)} {keys : List EndpointKey}
    (hintakes : s.intakes = intakes ++ [⟨models, batch, keys⟩]) :
    ∃ events t, Run limits s events t ∧
      t.Shows { system with store := system.store.putAll batch } ∧ t.callers = s.callers ∧
      t.intakes = intakes ++ [⟨models, [], keys⟩] := by
  induction batch generalizing s system with
  | nil => exact ⟨[], s, .nil, h, rfl, hintakes⟩
  | cons entry rest ih =>
    obtain ⟨key, model⟩ := entry
    obtain ⟨hstore, hcache, hnow⟩ := h
    have hintake : s.intakes[intakes.length]? = some ⟨models, (key, model) :: rest, keys⟩ := by
      rw [hintakes]
      simp
    have hwrite : Run limits s _ _ := Run.nil.snoc (.write hintake)
    have hshows : (s.write intakes.length key model ⟨models, rest, keys⟩).Shows
        { system with store := system.store.put key model } :=
      ⟨congrArg (Store.put · key model) hstore, hcache, hnow⟩
    obtain ⟨events, t, hrun, ht, hcallers, hdone⟩ := ih hshows (by
      rw [write, hintakes, set_length_append])
    exact ⟨_, t, hwrite.trans hrun, ht, hcallers, hdone⟩

/-- The keys of a batch that is written are dropped without interference. -/
theorem Shows.exists_run_drop (h : s.Shows system) {intakes : List Intake} {models : List Model}
    {keys : List EndpointKey} (hintakes : s.intakes = intakes ++ [⟨models, [], keys⟩]) :
    ∃ events t, Run limits s events t ∧ t.Shows (system.evictAll keys) ∧
      t.callers = s.callers ∧ t.intakes = intakes ++ [⟨models, [], []⟩] := by
  induction keys generalizing s system with
  | nil => exact ⟨[], s, .nil, h, rfl, hintakes⟩
  | cons key rest ih =>
    obtain ⟨hstore, hcache, hnow⟩ := h
    have hintake : s.intakes[intakes.length]? = some ⟨models, [], key :: rest⟩ := by
      rw [hintakes]
      simp
    have hdrop : Run limits s _ _ := Run.nil.snoc (.drop hintake)
    have hshows : (s.drop intakes.length key ⟨models, [], rest⟩).Shows (system.evict key) :=
      ⟨hstore, congrArg (Cache.evict · key) hcache, hnow⟩
    obtain ⟨events, t, hrun, ht, hcallers, hdone⟩ := ih hshows (by
      rw [drop, evict, hintakes, set_length_append])
    exact ⟨_, t, hdrop.trans hrun, ht, hcallers, hdone⟩

/-- A batch that is taken in without interference is a run at whose end it is done. -/
theorem Shows.exists_run_ingest (h : s.Shows system) {models : List Model}
    (haccepts : system.accepts limits models = true) :
    ∃ events t, Run limits s events t ∧ t.Shows (system.ingest limits models).2 ∧
      t.callers = s.callers ∧ t.intakes = s.intakes ++ [⟨models, [], []⟩] := by
  rcases System.ingest_cases limits system models with
    ⟨hrejected, -⟩ | ⟨-, hpasses, fault, hafter⟩
  · rw [hrejected] at haccepts
    cases haccepts
  · have haccept : Run limits s _ _ := Run.nil.snoc (.accept hpasses (.refl _) (.refl _))
    have hshows : (s.accept ⟨models, firstOfEachKey models,
        (firstOfEachKey models).map Prod.fst⟩).Shows { system with saveFault := fault } :=
      ⟨h.store, h.cache, h.now⟩
    obtain ⟨writes, u, hwrites, hu, hucallers, huintakes⟩ := hshows.exists_run_write rfl
    obtain ⟨drops, t, hdrops, ht, htcallers, htintakes⟩ := hu.exists_run_drop huintakes
    rw [hafter]
    exact ⟨_, t, (haccept.trans hwrites).trans hdrops, ht, htcallers.trans hucallers, htintakes⟩

end

end ApiDrift.Traffic
