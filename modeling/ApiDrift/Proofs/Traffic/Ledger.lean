import ApiDrift.Proofs.Cache.Stock
import ApiDrift.Proofs.Traffic.Landing
import ApiDrift.Proofs.Traffic.Trace

/-!
# The ledger of the cache

What a cache counts adds up. Whoever misses a key leads a flight or joins one. A flight ends with a
failure, with a result that is not kept, or with one that is inserted. What is inserted is in the
cache, or it was counted when it went, or it was there when its key was dropped. Each step keeps
these sums, together with the callers who are in between. The report of a cache tells its counters
exactly, unless more steps were made than its words can count.
-/

namespace ApiDrift

/-- The counters that a report tells. -/
def CacheStats.counters (stats : CacheStats) : Counters where
  hits := stats.hits.toNat
  misses := stats.misses.toNat
  loads := stats.loads.toNat
  loadFailures := stats.loadFailures.toNat
  evictions := stats.evictions.toNat
  expirations := stats.expirations.toNat
  invalidations := stats.invalidations.toNat

/-- Whether a caller leads a flight and has not looked into the store yet. -/
def Caller.isLeading (caller : Caller) : Bool :=
  match caller.phase with
  | .leads _ => true
  | _ => false

/-- Whether a caller leads a flight and its lookup in the store is over. -/
def Caller.hasLoaded (caller : Caller) : Bool :=
  match caller.phase with
  | .loaded .. => true
  | _ => false

/-- The entries that are gone behind a step because they were too old. What is dropped is gone for
another reason. -/
def Transition.expired (transition : Transition) : List CacheEntry :=
  if transition.drops then []
  else transition.source.cache.outdated transition.target.cache transition.source.now

namespace Traffic

variable {limits : Limits} {s t : Traffic} {event : Event} {transitions : List Transition}
  {key : EndpointKey} {flight : FlightId} {answer : LookupAnswer} {i : Nat}

/-- How many callers lead a flight and have not looked into the store yet. -/
def leading (s : Traffic) : Nat :=
  s.callers.countP Caller.isLeading

/-- How many callers lead a flight and their lookup in the store is over. -/
def loaded (s : Traffic) : Nat :=
  s.callers.countP Caller.hasLoaded

/-- What a step adds to the sums. -/
structure Conserves (transition : Transition) : Prop where
  /-- A miss leads a flight or joins one, and a leader looks into the store. -/
  misses :
    transition.target.cache.counters.misses + transition.source.cache.counters.loads +
        transition.source.leading =
      transition.source.cache.counters.misses + transition.target.cache.counters.loads +
        transition.target.leading + if transition.joins then 1 else 0
  /-- A load fails, or its result is not kept, or it is inserted. -/
  loads :
    transition.target.cache.counters.loads + transition.source.cache.counters.loadFailures +
        transition.source.loaded =
      transition.source.cache.counters.loads + transition.target.cache.counters.loadFailures +
        transition.target.loaded + (if transition.discards then 1 else 0) +
          if transition.inserts then 1 else 0
  /-- An entry was inserted, and it goes when its key is dropped or it is counted. -/
  stock :
    transition.target.cache.stock + (if transition.dropsEntry then 1 else 0) =
      transition.source.cache.stock + if transition.inserts then 1 else 0
  /-- An entry that is gone because it was too old is counted. -/
  expirations :
    transition.target.cache.counters.expirations =
      transition.source.cache.counters.expirations + transition.expired.length
  /-- A key that is dropped is counted. -/
  invalidations :
    transition.target.cache.counters.invalidations =
      transition.source.cache.counters.invalidations + if transition.drops then 1 else 0

/-- A step that leaves the entries and what was counted of them expires nothing. -/
theorem expirations_of_sameStock {transition : Transition}
    (h : Cache.SameStock transition.source.cache transition.target.cache) :
    transition.target.cache.counters.expirations =
      transition.source.cache.counters.expirations + transition.expired.length := by
  have hnone : transition.expired = [] := by
    unfold Transition.expired
    rw [h.outdated_eq, Cache.outdated_self, ite_self]
  rw [hnone, h.expirations]
  rfl

/-- The sums stay when a request arrives. -/
theorem conserves_arrive (htidy : s.cache.Tidy s.now) (key : EndpointKey) :
    Conserves ⟨s, .arrive key, s.arrive key⟩ := by
  obtain ⟨expirations, hcounters⟩ := s.cache.firstLookup_counters s.now key
  have hsame := s.cache.sameStock_firstLookup s.now key
  have hcallers : ∀ p : Caller → Bool,
      p ⟨key, .ofFirstLookup (s.cache.firstLookup s.now key).1⟩ = false →
        (s.arrive key).callers.countP p = s.callers.countP p := by
    intro p hp
    rw [Traffic.arrive, List.countP_append, List.countP_singleton, if_neg (by simp [hp]),
      Nat.add_zero]
  have hleading : (s.arrive key).leading = s.leading := hcallers Caller.isLeading (by
    cases (s.cache.firstLookup s.now key).1 <;> rfl)
  have hloaded : (s.arrive key).loaded = s.loaded := hcallers Caller.hasLoaded (by
    cases (s.cache.firstLookup s.now key).1 <;> rfl)
  have hcounted : (s.arrive key).cache.counters = _ := hcounters
  constructor
  case misses =>
    dsimp only
    rw [hleading, hcounted]
    rfl
  case loads =>
    dsimp only
    rw [hloaded, hcounted]
    rfl
  case stock => exact hsame.stock_eq.trans (htidy.stock_lookup key)
  case expirations => exact htidy.expirations_of_sameStock_lookup hsame
  case invalidations =>
    dsimp only
    rw [hcounted]
    rfl

/-- A caller joins a flight when boarding says so. -/
theorem joins_board (hcaller : s.callers[i]? = some ⟨key, .missed⟩) :
    Transition.joins ⟨s, .board i, s.board i key⟩ =
      match (s.cache.board s.now key).1 with
      | .joins _ => true
      | _ => false := by
  have hboarded : (s.board i key).callers[i]? =
      some ⟨key, (s.cache.board s.now key).1.phase⟩ :=
    List.getElem?_set_self (List.getElem?_eq_some_iff.mp hcaller).1
  unfold Transition.joins
  dsimp only
  rw [hboarded]
  cases (s.cache.board s.now key).1 <;> rfl

/-- The sums stay when a caller boards. -/
theorem conserves_board (htidy : s.cache.Tidy s.now)
    (hcaller : s.callers[i]? = some ⟨key, .missed⟩) :
    Conserves ⟨s, .board i, s.board i key⟩ := by
  obtain ⟨expirations, hcounters⟩ := s.cache.board_counters s.now key
  have hsame := s.cache.sameStock_board s.now key
  have hcounted : (s.board i key).cache.counters = _ := hcounters
  have hjoins := joins_board hcaller
  have hleading : (s.board i key).leading + 0 = s.leading + _ :=
    countP_set_add (p := Caller.isLeading) hcaller
  have hloaded : (s.board i key).loaded = s.loaded := countP_set_of_eq hcaller (by
    cases (s.cache.board s.now key).1 <;> rfl)
  constructor
  case misses =>
    dsimp only
    rw [hjoins, hcounted]
    cases hboarding : (s.cache.board s.now key).1 with
    | hit model =>
      have hsame : (s.board i key).leading = s.leading := by rwa [hboarding] at hleading
      rw [hsame]
      rfl
    | joins joined =>
      have hsame : (s.board i key).leading = s.leading := by rwa [hboarding] at hleading
      simp only [if_true]
      omega
    | leads led =>
      have hmore : (s.board i key).leading = s.leading + 1 := by rwa [hboarding] at hleading
      simp only [Bool.false_eq_true, if_false]
      omega
  case loads =>
    dsimp only
    rw [hloaded, hcounted]
    cases (s.cache.board s.now key).1 <;> rfl
  case stock => exact hsame.stock_eq.trans (htidy.stock_lookup key)
  case expirations => exact htidy.expirations_of_sameStock_lookup hsame
  case invalidations =>
    dsimp only
    rw [hcounted]
    cases (s.cache.board s.now key).1 <;> rfl

/-- The sums stay when a leader looks into the store. -/
theorem conserves_load (hcaller : s.callers[i]? = some ⟨key, .leads flight⟩) :
    Conserves ⟨s, .load i answer, s.load i key flight answer⟩ := by
  have hleading : (s.load i key flight answer).leading + 1 = s.leading + 0 :=
    countP_set_add (p := Caller.isLeading) hcaller
  have hloaded : (s.load i key flight answer).loaded + 0 = s.loaded + 1 :=
    countP_set_add (p := Caller.hasLoaded) hcaller
  have hloads : (s.load i key flight answer).cache.counters.loads =
      s.cache.counters.loads + 1 := rfl
  constructor
  case misses =>
    have hmisses : (s.load i key flight answer).cache.counters.misses =
        s.cache.counters.misses := rfl
    have hjoins : Transition.joins ⟨s, .load i answer, s.load i key flight answer⟩ = false := rfl
    simp only [hjoins, Bool.false_eq_true, if_false]
    omega
  case loads =>
    have hfailures : (s.load i key flight answer).cache.counters.loadFailures =
        s.cache.counters.loadFailures := rfl
    have hdiscards : Transition.discards ⟨s, .load i answer, s.load i key flight answer⟩ = false :=
      rfl
    have hinserts : Transition.inserts ⟨s, .load i answer, s.load i key flight answer⟩ = false :=
      rfl
    simp only [hdiscards, hinserts, Bool.false_eq_true, if_false]
    omega
  case stock => rfl
  case expirations => exact expirations_of_sameStock ⟨rfl, rfl, rfl⟩
  case invalidations => rfl

/-- The key of a flight that was not detached has no entry when the flight ends. -/
theorem absent_of_loaded (horderly : s.Orderly) (hexclusive : s.Exclusive)
    (hcaller : s.callers[i]? = some ⟨key, .loaded flight answer⟩)
    (hkept : flight ∉ s.cache.detached) : s.cache.entry? key = none :=
  hexclusive.absent ((horderly.registered ⟨_, hcaller, rfl, rfl⟩).resolve_right hkept)

/-- The sums stay when a flight ends. -/
theorem conserves_finish (htidy : s.cache.Tidy s.now) (horderly : s.Orderly)
    (hexclusive : s.Exclusive) (hcaller : s.callers[i]? = some ⟨key, .loaded flight answer⟩) :
    Conserves ⟨s, .finish i, s.finish i key flight answer⟩ := by
  obtain ⟨evictions, expirations, hcounters⟩ :=
    s.cache.finish_counters s.now key flight (answer.outcome key)
  have hcounted : (s.finish i key flight answer).cache.counters = _ := hcounters
  have habsent : flight ∉ s.cache.detached → s.cache.entry? key = none :=
    absent_of_loaded horderly hexclusive hcaller
  have hleading : (s.finish i key flight answer).leading = s.leading := countP_set_of_eq hcaller rfl
  have hloaded : (s.finish i key flight answer).loaded + 1 = s.loaded + 0 :=
    countP_set_add (p := Caller.hasLoaded) hcaller
  have hlanding : Transition.landing? ⟨s, .finish i, s.finish i key flight answer⟩ =
      some (key, flight, answer.outcome key) := by
    unfold Transition.landing?
    dsimp only
    rw [hcaller]
  have hdiscards : Transition.discards ⟨s, .finish i, s.finish i key flight answer⟩ =
      ((answer.outcome key).isOk && s.cache.detached.contains flight) := by
    rw [Transition.discards, hlanding]
    rfl
  have hinserts : Transition.inserts ⟨s, .finish i, s.finish i key flight answer⟩ =
      ((answer.outcome key).isOk && !s.cache.detached.contains flight) := by
    rw [Transition.inserts, hlanding]
    rfl
  constructor
  case misses =>
    dsimp only
    rw [hleading, hcounted]
    rfl
  case loads =>
    dsimp only
    rw [hdiscards, hinserts, hcounted]
    dsimp only
    cases (answer.outcome key).isOk <;> cases s.cache.detached.contains flight <;>
      simp only [Bool.and_true, Bool.and_false, Bool.not_true, Bool.not_false, Bool.false_eq_true,
        if_true, if_false] <;> omega
  case stock =>
    dsimp only
    rw [hinserts]
    exact htidy.stock_finish habsent
  case expirations => exact htidy.expirations_finish habsent
  case invalidations =>
    dsimp only
    rw [hcounted]
    rfl

/-- The sums stay when a caller that waited goes on. -/
theorem conserves_wake {outcome : LoadOutcome}
    (hcaller : s.callers[i]? = some ⟨key, .waits flight⟩) :
    Conserves ⟨s, .wake i, s.wake i key outcome⟩ := by
  have hleading : (s.wake i key outcome).leading = s.leading := countP_set_of_eq hcaller rfl
  have hloaded : (s.wake i key outcome).loaded = s.loaded := countP_set_of_eq hcaller rfl
  constructor
  case misses =>
    dsimp only
    rw [hleading]
    rfl
  case loads =>
    dsimp only
    rw [hloaded]
    rfl
  case stock => rfl
  case expirations => exact expirations_of_sameStock ⟨rfl, rfl, rfl⟩
  case invalidations => rfl

/-- Every step keeps the sums. -/
theorem Step.conserves (htidy : s.cache.Tidy s.now) (horderly : s.Orderly)
    (hexclusive : s.Exclusive) (hstep : Step limits s event t) : Conserves ⟨s, event, t⟩ := by
  cases hstep with
  | arrive key => exact conserves_arrive htidy key
  | board hcaller => exact conserves_board htidy hcaller
  | load hcaller => exact conserves_load hcaller
  | finish hcaller => exact conserves_finish htidy horderly hexclusive hcaller
  | wake hcaller => exact conserves_wake hcaller
  | evict key => exact ⟨rfl, rfl, htidy.stock_evict key, rfl, rfl⟩
  | @drop i models key rest hintake => exact ⟨rfl, rfl, htidy.stock_evict key, rfl, rfl⟩
  | advance | accept | write =>
    exact ⟨rfl, rfl, rfl, expirations_of_sameStock ⟨rfl, rfl, rfl⟩, rfl⟩

/-- The sums over what happened, together with the callers who are in between. -/
structure Booked (transitions : List Transition) (t : Traffic) : Prop where
  /-- As many callers have come as requests arrived. -/
  callers : t.callers.length = transitions.countP Transition.requests
  /-- Misses lead flights or join them. -/
  misses : t.cache.counters.misses =
    t.cache.counters.loads + transitions.countP Transition.joins + t.leading
  /-- Loads fail, or their results are not kept, or they are inserted. -/
  loads : t.cache.counters.loads =
    t.cache.counters.loadFailures + transitions.countP Transition.discards +
      transitions.countP Transition.inserts + t.loaded
  /-- What was inserted is there, or was counted, or was dropped. -/
  stock : transitions.countP Transition.inserts =
    t.cache.stock + transitions.countP Transition.dropsEntry
  /-- Dropped keys are counted. -/
  invalidations : t.cache.counters.invalidations = transitions.countP Transition.drops

/-- Nothing is booked before anything has happened. -/
theorem booked_start (maxEntries ttl : Nat) (store : Store) :
    Booked [] (start maxEntries ttl store) :=
  ⟨rfl, rfl, rfl, rfl, rfl⟩

/-- A request that arrives is one more caller, and no other step brings one. -/
theorem callers_length_of_step (hstep : Step limits s event t) :
    t.callers.length = s.callers.length +
      if Transition.requests ⟨s, event, t⟩ then 1 else 0 := by
  cases hstep with
  | arrive key => exact List.length_append
  | board | load | finish | wake => exact List.length_set
  | evict | advance | accept | write | drop => rfl

/-- A step that adds to the sums keeps the books. -/
theorem Booked.snoc (h : Booked transitions s) (hstep : Step limits s event t)
    (hconserves : Conserves ⟨s, event, t⟩) : Booked (transitions ++ [⟨s, event, t⟩]) t := by
  have hcallers := callers_length_of_step hstep
  obtain ⟨hmisses, hloads, hstock, -, hinvalidations⟩ := hconserves
  constructor
  case callers =>
    rw [List.countP_append, List.countP_singleton, hcallers, h.callers]
  case misses =>
    have hbefore := h.misses
    rw [List.countP_append, List.countP_singleton]
    dsimp only at hmisses
    omega
  case loads =>
    have hbefore := h.loads
    rw [List.countP_append, List.countP_singleton, List.countP_append, List.countP_singleton]
    dsimp only at hloads
    omega
  case stock =>
    have hbefore := h.stock
    rw [List.countP_append, List.countP_singleton, List.countP_append, List.countP_singleton]
    dsimp only at hstock
    omega
  case invalidations =>
    rw [List.countP_append, List.countP_singleton, hinvalidations, h.invalidations]

section Reached

variable {maxEntries ttl : Nat} {store : Store}

/-- The cache is tidy in every state that a run reaches. -/
theorem Run.tidy {events : List Event} (hrun : Run limits (start maxEntries ttl store) events t) :
    t.cache.Tidy t.now :=
  (Cache.tidy_new maxEntries ttl 0).uses hrun.uses

/-- The books are kept along every trace. -/
theorem Trace.booked (htrace : Trace limits (start maxEntries ttl store) transitions t) :
    Booked transitions t := by
  induction htrace with
  | nil => exact booked_start ..
  | snoc htrace hstep ih =>
    exact ih.snoc hstep (hstep.conserves htrace.run.tidy htrace.run.orderly htrace.run.exclusive)

/-- A flight that ends with a result that is inserted had no entry for its key, and it has one
then. -/
theorem Trace.entry?_of_inserts
    (htrace : Trace limits (start maxEntries ttl store) transitions t) {transition : Transition}
    (hmem : transition ∈ transitions) {outcome : LoadOutcome}
    (hlanding : transition.landing? = some (key, flight, outcome))
    (hinserts : transition.inserts = true) :
    transition.source.cache.entry? key = none ∧
      ∃ model, outcome = .ok model ∧
        transition.target.cache.entry? key = some ⟨key, model, transition.source.now⟩ := by
  obtain ⟨⟨events, hrun⟩, hstep⟩ := htrace.exists_run_of_mem hmem
  obtain ⟨source, event, target⟩ := transition
  obtain ⟨i, answer, rfl, hcaller, rfl⟩ := Transition.landing?_eq_some hlanding
  rw [Transition.inserts, hlanding, Option.any_some, Bool.and_eq_true] at hinserts
  obtain ⟨hok, hundetached⟩ := hinserts
  have hkept : flight ∉ source.cache.detached := by
    simpa [Transition.detached] using hundetached
  have habsent : source.cache.entry? key = none :=
    absent_of_loaded hrun.orderly hrun.exclusive hcaller hkept
  refine ⟨habsent, ?_⟩
  have hfinish : Step limits source (.finish i) target := hstep
  cases hfinish with
  | finish hphase =>
    cases hcaller.symm.trans hphase
    cases answer with
    | found model => exact ⟨model, rfl, Cache.entry?_finish hkept⟩
    | failed error => cases hok
    | unwound => cases hok

/-- Nobody is in between when no request is running. -/
theorem Idle.countP_eq_zero (h : t.Idle) {p : Caller → Bool}
    (hp : ∀ key answer, p ⟨key, .answered answer⟩ = false) : t.callers.countP p = 0 := by
  refine List.countP_eq_zero.mpr fun caller hcaller hholds => ?_
  obtain ⟨answer, hidle⟩ := h caller hcaller
  obtain ⟨key, phase⟩ := caller
  obtain rfl : phase = .answered answer := hidle
  rw [hp] at hholds
  cases hholds

/-- When no request is running, hits and misses are the requests that arrived, misses led a flight
or joined one, loads failed or had results that were not kept or were inserted, and what was inserted
is in the cache, was evicted, has expired, or was there when its key was dropped. Keys that were
dropped are counted. An insertion finds no entry of its key. And each step counts those entries as
expired that are gone behind it because they were too old. -/
theorem Trace.conserved (htrace : Trace limits (start maxEntries ttl store) transitions t)
    (hidle : t.Idle) :
    t.cache.counters.hits + t.cache.counters.misses =
      transitions.countP Transition.requests ∧
    t.cache.counters.misses =
      t.cache.counters.loads + transitions.countP Transition.joins ∧
    t.cache.counters.loads =
      t.cache.counters.loadFailures + transitions.countP Transition.discards +
        transitions.countP Transition.inserts ∧
    transitions.countP Transition.inserts =
      t.cache.entries.length + t.cache.counters.evictions + t.cache.counters.expirations +
        transitions.countP Transition.dropsEntry ∧
    t.cache.counters.invalidations = transitions.countP Transition.drops ∧
    ∀ transition ∈ transitions,
      (∀ key flight outcome, transition.landing? = some (key, flight, outcome) →
        transition.inserts = true →
          transition.source.cache.entry? key = none ∧
            ∃ model, outcome = .ok model ∧
              transition.target.cache.entry? key = some ⟨key, model, transition.source.now⟩) ∧
      transition.target.cache.counters.expirations =
        transition.source.cache.counters.expirations + transition.expired.length := by
  have hbooked := htrace.booked
  have hrequests := ((tallied_start maxEntries ttl store).run htrace.run).requests
  have hunboarded : t.unboarded = 0 := hidle.countP_eq_zero fun _ _ => rfl
  have hleading : t.leading = 0 := hidle.countP_eq_zero fun _ _ => rfl
  have hloaded : t.loaded = 0 := hidle.countP_eq_zero fun _ _ => rfl
  refine ⟨?_, ?_, ?_, hbooked.stock, hbooked.invalidations, fun transition hmem =>
    ⟨fun key flight outcome => htrace.entry?_of_inserts hmem, ?_⟩⟩
  · rw [← hbooked.callers, ← hrequests, hunboarded]
    rfl
  · rw [hbooked.misses, hleading]
    rfl
  · rw [hbooked.loads, hloaded]
    rfl
  · obtain ⟨⟨events, hrun⟩, hstep⟩ := htrace.exists_run_of_mem hmem
    exact (hstep.conserves hrun.tidy hrun.orderly hrun.exclusive).expirations

/-- The report of a cache tells its counters and the number of its entries, as long as a word of 64
bits can count the steps that were made. -/
theorem Trace.stats_exact (htrace : Trace limits (start maxEntries ttl store) transitions t)
    (hlength : transitions.length < UInt64.size) :
    t.cache.stats.counters = t.cache.counters ∧
      t.cache.stats.entries.toNat = t.cache.entries.length := by
  have hbooked := htrace.booked
  have htallied := ((tallied_start maxEntries ttl store).run htrace.run).requests
  have hcount (p : Transition → Bool) : transitions.countP p ≤ transitions.length :=
    List.countP_le_length
  have hrequests : t.cache.counters.hits + t.cache.counters.misses ≤ transitions.length := by
    have hcallers := hcount Transition.requests
    rw [← hbooked.callers, ← htallied] at hcallers
    exact Nat.le_of_add_right_le hcallers
  have hstock : t.cache.entries.length + t.cache.counters.evictions + t.cache.counters.expirations ≤
      transitions.length := by
    have hinserts := hcount Transition.inserts
    rw [hbooked.stock] at hinserts
    exact Nat.le_of_add_right_le hinserts
  have hinvalidations := hcount Transition.drops
  rw [← hbooked.invalidations] at hinvalidations
  have hmisses := hbooked.misses
  have hloads := hbooked.loads
  have hfits (n : Nat) (hle : n ≤ transitions.length) : (UInt64.ofNat n).toNat = n :=
    UInt64.toNat_ofNat_of_lt' (Nat.lt_of_le_of_lt hle hlength)
  refine ⟨?_, hfits _ (by omega)⟩
  rw [Cache.stats, Counters.toStats, CacheStats.counters]
  dsimp only
  rw [hfits _ (by omega), hfits _ (by omega), hfits _ (by omega), hfits _ (by omega),
    hfits _ (by omega), hfits _ (by omega), hfits _ (by omega)]

/-- Of a cache with room for one entry: a load that is joined, an entry that expires, a load that is
detached, one that unwinds, an entry that is dropped, one that makes room for another and a hit. -/
def eventful : List Event :=
  [.arrive ⟨"GET:/orders"⟩, .board 0, .arrive ⟨"GET:/orders"⟩, .board 1, .load 0 (.found none),
    .finish 0, .wake 1, .advance 2, .arrive ⟨"GET:/orders"⟩, .board 2, .load 2 (.found none),
    .evict ⟨"GET:/orders"⟩, .finish 2, .arrive ⟨"GET:/users"⟩, .board 3, .load 3 .unwound,
    .finish 3, .arrive ⟨"GET:/users"⟩, .board 4, .load 4 (.found none), .finish 4,
    .evict ⟨"GET:/users"⟩, .arrive ⟨"GET:/users"⟩, .board 5, .load 5 (.found none), .finish 5,
    .arrive ⟨"GET:/orders"⟩, .board 6, .load 6 (.found none), .finish 6, .arrive ⟨"GET:/orders"⟩]

/-- Eight requests are one hit and seven misses, of which one joined a flight. Of the six loads one
failed, one was not kept, and four were inserted: one is left, one was evicted, one has expired, and
one was dropped. -/
theorem conserved_eventful :
    ∃ transitions t, Trace {} (start 1 2 .empty) transitions t ∧
      transitions.map Transition.event = eventful ∧ t.Idle ∧
        transitions.countP Transition.requests = 8 ∧ transitions.countP Transition.joins = 1 ∧
          transitions.countP Transition.discards + transitions.countP Transition.inserts = 5 ∧
            transitions.countP Transition.inserts = 3 + transitions.countP Transition.dropsEntry ∧
              transitions.countP Transition.drops = 2 := by
  have hcounted : ((start 1 2 .empty).run? {} eventful).map
      (fun t => (t.cache.counters, t.cache.entries.length)) =
        some (⟨1, 7, 6, 1, 1, 1, 2⟩, 1) := by decide +kernel
  have hidle : ((start 1 2 .empty).run? {} eventful).map (fun t => decide t.Idle) =
      some true := by decide +kernel
  obtain ⟨t, ht, hfacts⟩ := Option.map_eq_some_iff.mp hcounted
  rw [ht, Option.map_some, Option.some.injEq, decide_eq_true_eq] at hidle
  obtain ⟨hcounters, hentries⟩ := Prod.mk.inj hfacts
  obtain ⟨transitions, hevents, htrace⟩ := (run_of_run? ht).exists_trace
  obtain ⟨hrequests, hmisses, hloads, hstock, hdrops, -⟩ := htrace.conserved hidle
  rw [hcounters] at hrequests hmisses hloads hstock hdrops
  rw [hentries] at hstock
  dsimp only at hrequests hmisses hloads hstock hdrops
  exact ⟨transitions, t, htrace, hevents, hidle, by omega, by omega, by omega, by omega, by omega⟩

end Reached

end Traffic

end ApiDrift
