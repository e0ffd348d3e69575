import ApiDrift.Proofs.Traffic.Exclusive
import Mathlib.Data.Nat.Find

/-!
# One flight at a time

Flights of one key run at the same time only when the key was dropped in between: each time a key is
dropped it detaches at most one flight, and until then no other one is registered. So at most one
more flight of a key runs than the key was dropped since the oldest of them was registered.
-/

namespace ApiDrift

/-- Whether a caller leads a flight of a key, of those with names from `first` on. -/
def Caller.flies (key : EndpointKey) (first : FlightId) (caller : Caller) : Bool :=
  caller.key == key && caller.phase.led?.any (first ≤ ·)

namespace Traffic

variable {limits : Limits} {s t : Traffic} {event : Event} {events : List Event}
  {key : EndpointKey} {flight first : FlightId}

/-- How many flights of a key run, of those with names from `first` on. -/
def runningFrom (s : Traffic) (key : EndpointKey) (first : FlightId) : Nat :=
  s.callers.countP (Caller.flies key first)

/-- How many flights of a key run. A lookup in the store runs no longer than its flight. -/
def running (s : Traffic) (key : EndpointKey) : Nat :=
  s.callers.countP fun caller => caller.key == key && caller.phase.led?.isSome

/-- Of the flights with names from `first` on, at most one more runs than the key was dropped, and
none more if none of them is registered. -/
structure Crowd (key : EndpointKey) (first : FlightId) (drops : Nat) (s : Traffic) : Prop where
  /-- At most one flight runs that was not detached. -/
  bounded : s.runningFrom key first ≤ drops + 1
  /-- Without a registration all that run were detached. -/
  unregistered : (∀ flight, s.cache.flight? key = some flight → flight < first) →
    s.runningFrom key first ≤ drops

/-- The bound stays when as many flights run and the same ones are registered. -/
theorem Crowd.of_same {drops : Nat} (h : Crowd key first drops s)
    (hrunning : t.runningFrom key first = s.runningFrom key first)
    (hflight : t.cache.flight? key = s.cache.flight? key) : Crowd key first drops t where
  bounded := hrunning ▸ h.bounded
  unregistered hnone := by
    rw [hflight] at hnone
    exact hrunning ▸ h.unregistered hnone

/-- How many flights run after one caller went on. -/
theorem runningFrom_add (key : EndpointKey) (first : FlightId) {i : Nat} {old new : Caller}
    (hold : s.callers[i]? = some old) (hcallers : t.callers = s.callers.set i new) :
    t.runningFrom key first + (if old.flies key first then 1 else 0) =
      s.runningFrom key first + if new.flies key first then 1 else 0 := by
  rw [runningFrom, hcallers]
  exact countP_set_add hold

/-- The bound stays when a caller goes on and leads the same flight as before, or none. -/
theorem Crowd.of_set {drops i : Nat} {old new : Caller} (h : Crowd key first drops s)
    (hold : s.callers[i]? = some old) (hcallers : t.callers = s.callers.set i new)
    (hflies : new.flies key first = old.flies key first)
    (hflight : t.cache.flight? key = s.cache.flight? key) : Crowd key first drops t := by
  refine h.of_same ?_ hflight
  rw [runningFrom, hcallers]
  exact countP_set_of_eq hold hflies

/-- The bound stays when a caller boards: a new flight of the key is registered only when none
was. -/
theorem Crowd.board {drops i : Nat} {other : EndpointKey} (h : Crowd key first drops s)
    (hcaller : s.callers[i]? = some ⟨other, .missed⟩) :
    Crowd key first drops (s.board i other) := by
  have hcallers : (s.board i other).callers =
      s.callers.set i ⟨other, (s.cache.board s.now other).1.phase⟩ := rfl
  rcases s.cache.board_cases s.now other with ⟨model, hboarding, -, hsame⟩ |
    ⟨flight, hboarding, -, hsame⟩ | ⟨hboarding, hfree, hregistered, -⟩
  · rw [hboarding] at hcallers
    exact h.of_set hcaller hcallers rfl (hsame.flight?_eq key)
  · rw [hboarding] at hcallers
    exact h.of_set hcaller hcallers rfl (hsame.flight?_eq key)
  · rw [hboarding] at hcallers
    have hflight : (s.board i other).cache.flight? key = _ :=
      Cache.flight?_of_registered hregistered key
    by_cases hkey : key = other
    · subst hkey
      have hbefore : s.runningFrom key first ≤ drops := h.unregistered (by simp [hfree])
      have hadd := runningFrom_add key first hcaller hcallers
      have hold : Caller.flies key first ⟨key, .missed⟩ = false := by
        simp [Caller.flies, Phase.led?]
      rw [hold, if_neg Bool.false_ne_true, Nat.add_zero] at hadd
      rw [if_pos rfl] at hflight
      constructor
      case bounded =>
        rw [hadd]
        split <;> omega
      case unregistered =>
        intro hlate
        have hnew : ¬Caller.flies key first
            ⟨key, (Boarding.leads s.cache.nextFlight).phase⟩ = true := by
          simpa [Caller.flies, Boarding.phase, Phase.led?] using hlate _ hflight
        rw [hadd, if_neg hnew]
        exact hbefore
    · have hkey' : (other == key) = false := beq_false_of_ne (Ne.symm hkey)
      refine h.of_set hcaller hcallers ?_ (hflight.trans (if_neg hkey))
      simp [Caller.flies, hkey']

/-- The bound stays when a flight ends: if it was registered, there is one flight less. -/
theorem Crowd.finish {drops i : Nat} {other : EndpointKey} {answer : LookupAnswer}
    (h : Crowd key first drops s) (hcaller : s.callers[i]? = some ⟨other, .loaded flight answer⟩) :
    Crowd key first drops (s.finish i other flight answer) := by
  have hadd := runningFrom_add (t := s.finish i other flight answer) key first hcaller rfl
  have hnew : ¬Caller.flies key first ⟨other, .answered answer⟩ = true := by
    simp [Caller.flies, Phase.led?]
  rw [if_neg hnew, Nat.add_zero] at hadd
  have hflight : (s.finish i other flight answer).cache.flight? key = _ :=
    Cache.flight?_finish s.cache s.now other key flight (answer.outcome other)
  constructor
  case bounded =>
    exact Nat.le_trans (Nat.le_of_add_right_le (Nat.le_of_eq hadd)) h.bounded
  case unregistered =>
    intro hlate
    by_cases hstays : key = other ∧ s.cache.flight? other = some flight
    · obtain ⟨rfl, hregistered⟩ := hstays
      by_cases hfirst : first ≤ flight
      · have hold : Caller.flies key first ⟨key, .loaded flight answer⟩ = true := by
          simp [Caller.flies, Phase.led?, hfirst]
        rw [if_pos hold] at hadd
        have := h.bounded
        omega
      · have := h.unregistered fun f hf => by
          rw [hregistered] at hf
          cases hf
          exact Nat.lt_of_not_le hfirst
        omega
    · rw [if_neg hstays] at hflight
      rw [hflight] at hlate
      have := h.unregistered hlate
      omega

/-- Each time the key is dropped, one more flight may run. -/
theorem Crowd.evict {drops : Nat} (h : Crowd key first drops s) (other : EndpointKey) :
    Crowd key first (drops + if other == key then 1 else 0) (s.evict other) := by
  have hflight : (s.evict other).cache.flight? key = _ := Cache.flight?_evict s.cache other key
  by_cases hkey : other = key
  · subst hkey
    rw [beq_self_eq_true, if_pos rfl]
    exact ⟨Nat.le_succ_of_le h.bounded, fun _ => h.bounded⟩
  · rw [beq_false_of_ne hkey, if_neg Bool.false_ne_true]
    exact h.of_same rfl (hflight.trans (if_neg (Ne.symm hkey)))

/-- A step that does not drop the key keeps the bound, and one that does raises it by one. -/
theorem Crowd.step {drops : Nat} (h : Crowd key first drops s) (hstep : Step limits s event t) :
    Crowd key first (drops + if event.drops key then 1 else 0) t := by
  cases hstep with
  | arrive other =>
    have hnew : Caller.flies key first
        ⟨other, .ofFirstLookup (s.cache.firstLookup s.now other).1⟩ = false := by
      cases (s.cache.firstLookup s.now other).1 <;>
        simp [Caller.flies, Phase.ofFirstLookup, Phase.led?]
    refine h.of_same ?_ ((s.cache.sameFlights_firstLookup s.now other).flight?_eq key)
    simp [runningFrom, Traffic.arrive, hnew]
  | board hcaller => exact h.board hcaller
  | load hcaller => exact h.of_set hcaller rfl rfl rfl
  | finish hcaller => exact h.finish hcaller
  | wake hcaller => exact h.of_set hcaller rfl rfl rfl
  | evict other => exact h.evict other
  | @drop i models other rest hintake => exact (h.evict other).of_same rfl rfl
  | advance | accept | write => exact h.of_same rfl rfl

/-- In a run, at most as many more flights run as the key was dropped. -/
theorem Crowd.run {drops : Nat} (h : Crowd key first drops s) (hrun : Run limits s events t) :
    Crowd key first (drops + events.countP (Event.drops key)) t := by
  induction hrun with
  | nil => exact h
  | snoc _ hstep ih =>
    rw [List.countP_append, List.countP_singleton, ← Nat.add_assoc]
    exact ih.step hstep

/-- One step in the middle of a run, with what came before and behind it. -/
structure Moment (limits : Limits) (s : Traffic) (events : List Event) (t : Traffic) where
  /-- What happened before. -/
  before : List Event
  /-- What happened then. -/
  event : Event
  /-- What happened behind it. -/
  after : List Event
  /-- The state before the step. -/
  source : Traffic
  /-- The state behind the step. -/
  target : Traffic
  /-- These are all events of the run. -/
  events_eq : events = before ++ event :: after
  /-- The run up to the step. -/
  reached : Run limits s before source
  /-- The step. -/
  step : Step limits source event target
  /-- The run from the step on. -/
  rest : Run limits target after t

namespace Moment

/-- The last step of a run. -/
def last {u : Traffic} (hrun : Run limits s events t) (hstep : Step limits t event u) :
    Moment limits s (events ++ [event]) u where
  before := events
  event := event
  after := []
  source := t
  target := u
  events_eq := rfl
  reached := hrun
  step := hstep
  rest := .nil

/-- A step in the middle of a run that goes on. -/
def snoc {u : Traffic} (moment : Moment limits s events t) (hstep : Step limits t event u) :
    Moment limits s (events ++ [event]) u where
  before := moment.before
  event := moment.event
  after := moment.after ++ [event]
  source := moment.source
  target := moment.target
  events_eq := (congrArg (· ++ [event]) moment.events_eq).trans (List.append_assoc ..)
  reached := moment.reached
  step := moment.step
  rest := moment.rest.snoc hstep

/-- The step registers a flight of a key. -/
def Registers (moment : Moment limits s events t) (key : EndpointKey) (flight : FlightId) : Prop :=
  moment.source.cache.flight? key = none ∧ moment.target.cache.flight? key = some flight

/-- The step drops a key for which a flight is registered. -/
def Detaches (moment : Moment limits s events t) (key : EndpointKey) (flight : FlightId) : Prop :=
  moment.event.drops key = true ∧ moment.source.cache.flight? key = some flight

/-- A flight that is registered gets the next name. -/
theorem Registers.nextFlight {moment : Moment limits s events t}
    (h : moment.Registers key flight) : flight = moment.source.cache.nextFlight := by
  refine (flight?_of_step h.2 moment.step).resolve_left fun hbefore => ?_
  rw [h.1] at hbefore
  cases hbefore

/-- A step that registers a flight of a key does not drop the key. -/
theorem Registers.drops_eq_false {moment : Moment limits s events t}
    (h : moment.Registers key flight) : moment.event.drops key = false := by
  by_contra hdrops
  have hnone := (dropped_of_step moment.step (Event.drops_iff.mp (by simpa using hdrops))).2
  rw [h.2] at hnone
  cases hnone

end Moment

section Reached

variable {maxEntries ttl : Nat} {store : Store}

/-- A running flight was registered at some moment of the run. -/
theorem Run.exists_registers (hrun : Run limits (start maxEntries ttl store) events t) {i : Nat}
    (hleads : Leads t.callers i key flight) :
    ∃ moment : Moment limits (start maxEntries ttl store) events t,
      moment.Registers key flight := by
  induction hrun with
  | nil =>
    obtain ⟨caller, hcaller, -⟩ := hleads
    cases hcaller
  | @snoc events t u event hrun hstep ih =>
    by_cases hbefore : Leads t.callers i key flight
    · obtain ⟨moment, hregisters⟩ := ih hbefore
      exact ⟨moment.snoc hstep, hregisters⟩
    · exact ⟨.last hrun hstep, registered_of_leads hleads hbefore hstep⟩

/-- A running flight is registered for its key, unless the key was dropped meanwhile. -/
theorem Run.registered_or_detached (hrun : Run limits (start maxEntries ttl store) events t)
    {i : Nat} (hleads : Leads t.callers i key flight) :
    t.cache.flight? key = some flight ∨
      ∃ moment : Moment limits (start maxEntries ttl store) events t,
        moment.Detaches key flight := by
  induction hrun with
  | nil =>
    obtain ⟨caller, hcaller, -⟩ := hleads
    cases hcaller
  | @snoc events t u event hrun hstep ih =>
    by_cases hbefore : Leads t.callers i key flight
    · rcases ih hbefore with hregistered | ⟨moment, hdetaches⟩
      · refine ((hrun.snoc hstep).orderly.registered hleads).imp_right fun hdetached => ?_
        rcases detached_of_step hdetached hstep with hdetached | ⟨other, hdrops, hother⟩
        · exact absurd hregistered ((hrun.exclusive.detached hdetached).2 key)
        · obtain ⟨j, hj⟩ := hrun.orderly.led hother
          obtain rfl := hrun.orderly.key_unique hj hbefore
          exact ⟨.last hrun hstep, hdrops, hother⟩
      · exact .inr ⟨moment.snoc hstep, hdetaches⟩
    · exact .inl (registered_of_leads hleads hbefore hstep).2

/-- A flight whose key was dropped while it was registered is registered no more. -/
theorem Moment.Detaches.flight?_ne
    {moment : Moment limits (start maxEntries ttl store) events t}
    (h : moment.Detaches key flight) : t.cache.flight? key ≠ some flight := by
  obtain ⟨i, hleads⟩ := moment.reached.orderly.led h.2
  have hnamed := Nat.lt_of_lt_of_le (moment.reached.orderly.named hleads)
    (nextFlight_le_of_step moment.step)
  have hnone := (dropped_of_step moment.step (Event.drops_iff.mp h.1)).2
  exact moment.rest.flight?_ne hnamed (by simp [hnone])

/-- A key without a running flight has no leader. -/
theorem running_eq_zero_iff : t.running key = 0 ↔ ∀ i flight, ¬Leads t.callers i key flight := by
  simp only [running, List.countP_eq_zero, Bool.and_eq_true, beq_iff_eq, not_and]
  constructor
  · rintro hnone i flight ⟨caller, hcaller, hkey, hled⟩
    exact hnone caller (List.mem_of_getElem? hcaller) hkey (by rw [hled]; rfl)
  · intro hnone caller hmem hkey hled
    obtain ⟨i, hcaller⟩ := List.getElem?_of_mem hmem
    obtain ⟨flight, hflight⟩ := Option.isSome_iff_exists.mp hled
    exact hnone i flight ⟨caller, hcaller, hkey, hflight⟩

/-- As many flights run as there are callers that lead one of the key, if all have names from
`first` on. -/
theorem running_eq_runningFrom (h : ∀ i flight, Leads t.callers i key flight → first ≤ flight) :
    t.running key = t.runningFrom key first := by
  refine List.countP_congr fun caller hmem => ?_
  obtain ⟨i, hcaller⟩ := List.getElem?_of_mem hmem
  simp only [Caller.flies, Bool.and_eq_true, beq_iff_eq]
  refine and_congr_right fun hkey => ?_
  cases hled : caller.phase.led? with
  | none => simp
  | some flight => simpa using h i flight ⟨caller, hcaller, hkey, hled⟩

/-- No flight runs yet that gets the next name or a later one. -/
theorem Orderly.crowd (h : s.Orderly) (key : EndpointKey) : Crowd key s.cache.nextFlight 0 s := by
  have hnone : s.runningFrom key s.cache.nextFlight = 0 := by
    rw [runningFrom, List.countP_eq_zero]
    intro caller hmem hflies
    obtain ⟨i, hcaller⟩ := List.getElem?_of_mem hmem
    simp only [Caller.flies, Bool.and_eq_true, beq_iff_eq] at hflies
    obtain ⟨flight, hled, hlate⟩ := (Option.any_eq_true _ _).mp hflies.2
    exact Nat.not_lt.mpr (of_decide_eq_true hlate) (h.named ⟨caller, hcaller, hflies.1, hled⟩)
  exact ⟨Nat.le_succ_of_le (Nat.le_of_eq hnone), fun _ => Nat.le_of_eq hnone⟩

/-- If flights of a key run, the oldest of them, which is the one with the least name, was
registered at some moment, and since then the key was dropped at least once for every other one. -/
theorem Run.running_le (hrun : Run limits (start maxEntries ttl store) events t)
    (key : EndpointKey) :
    t.running key = 0 ∨
      ∃ (moment : Moment limits (start maxEntries ttl store) events t) (i : Nat)
        (flight : FlightId), moment.Registers key flight ∧ Leads t.callers i key flight ∧
          (∀ j other, Leads t.callers j key other → ¬Leads moment.source.callers j key other) ∧
            t.running key ≤ 1 + moment.after.countP (Event.drops key) := by
  classical
  by_cases hleads : ∃ flight i, Leads t.callers i key flight
  · obtain ⟨i, holdest⟩ := Nat.find_spec hleads
    have hleast : ∀ j other, Leads t.callers j key other → Nat.find hleads ≤ other :=
      fun j other hother => Nat.find_min' hleads ⟨j, hother⟩
    obtain ⟨moment, hregisters⟩ := hrun.exists_registers holdest
    have hname := hregisters.nextFlight
    refine .inr ⟨moment, i, _, hregisters, holdest, fun j other hother hbefore => ?_, ?_⟩
    · have hnamed := moment.reached.orderly.named hbefore
      exact Nat.not_lt.mpr (hname ▸ hleast j other hother) hnamed
    · have hcrowd := (moment.reached.orderly.crowd key).step moment.step
      rw [hregisters.drops_eq_false, if_neg Bool.false_ne_true] at hcrowd
      have hbounded := (hcrowd.run moment.rest).bounded
      rw [← hname, ← running_eq_runningFrom hleast] at hbounded
      omega
  · refine .inl (running_eq_zero_iff.mpr fun i flight hflight => ?_)
    exact hleads ⟨flight, i, hflight⟩

/-- A detached flight that ends leaves entries and registrations as they are, and answers nobody but
its leader and those who wait for it. -/
theorem finish_of_detached {i : Nat} {answer : LookupAnswer} (hexclusive : s.Exclusive)
    (hdetached : flight ∈ s.cache.detached) :
    (s.finish i key flight answer).cache.entries = s.cache.entries ∧
      (s.finish i key flight answer).cache.registered = s.cache.registered ∧
        (∀ other ≠ flight,
          (s.finish i key flight answer).results.lookup other = s.results.lookup other) ∧
          ∀ j ≠ i, (s.finish i key flight answer).callers[j]? = s.callers[j]? := by
  refine ⟨?_, ?_, ?_, ?_⟩
  · exact (Cache.finish_entries ..).trans (Cache.settle_entries_of_detached hdetached)
  · exact (Cache.finish_registered ..).trans (if_neg ((hexclusive.detached hdetached).2 key))
  · intro other hother
    exact (Cache.lookup_cons_ite ..).trans (if_neg hother)
  · intro j hj
    exact List.getElem?_set_ne (Ne.symm hj)

/-- In every state that a run reaches, a key has at most one registered flight, which is every
running flight of the key during which the key was not dropped, and as long as it has one there is
no entry of the key. So at most one more flight of a key runs than the key was dropped since the
oldest of them was registered. The end of a flight whose key was dropped leaves all entries, all
registrations and the results of all other flights as they are. -/
theorem Run.single_flight (hrun : Run limits (start maxEntries ttl store) events t) :
    (t.cache.registered.map Prod.fst).Nodup ∧
      (∀ i key flight, Leads t.callers i key flight →
        t.cache.flight? key = some flight ∨
          ∃ moment : Moment limits (start maxEntries ttl store) events t,
            moment.Detaches key flight) ∧
      (∀ key flight, t.cache.flight? key = some flight → t.cache.entry? key = none) ∧
      (∀ key, t.running key = 0 ∨
        ∃ (moment : Moment limits (start maxEntries ttl store) events t) (i : Nat)
          (flight : FlightId), moment.Registers key flight ∧ Leads t.callers i key flight ∧
            (∀ j other, Leads t.callers j key other → ¬Leads moment.source.callers j key other) ∧
              t.running key ≤ 1 + moment.after.countP (Event.drops key)) ∧
      ∀ (moment : Moment limits (start maxEntries ttl store) events t) (i : Nat)
        (key : EndpointKey) (flight : FlightId) (answer : LookupAnswer) (u : Traffic),
        moment.Detaches key flight → t.callers[i]? = some ⟨key, .loaded flight answer⟩ →
          Step limits t (.finish i) u →
            u.cache.entries = t.cache.entries ∧ u.cache.registered = t.cache.registered ∧
              (∀ other ≠ flight, u.results.lookup other = t.results.lookup other) ∧
                ∀ j ≠ i, u.callers[j]? = t.callers[j]? := by
  have hexclusive := hrun.exclusive
  refine ⟨hexclusive.distinct, fun i key flight => hrun.registered_or_detached,
    fun key flight => hexclusive.absent, hrun.running_le, ?_⟩
  intro moment i key flight answer u hdetaches hcaller hstep
  have hleads : Leads t.callers i key flight := ⟨_, hcaller, rfl, rfl⟩
  have hdetached := (hrun.orderly.registered hleads).resolve_left hdetaches.flight?_ne
  cases hstep with
  | finish hcaller' =>
    obtain ⟨rfl, rfl, rfl⟩ : _ ∧ _ ∧ _ := by simpa using hcaller.symm.trans hcaller'
    exact finish_of_detached hexclusive hdetached

/-- A key that is dropped while it is loaded is loaded a second time. -/
def overlapping : List Event :=
  [.arrive ⟨"GET:/orders"⟩, .board 0, .evict ⟨"GET:/orders"⟩, .arrive ⟨"GET:/orders"⟩, .board 1,
    .load 0 (.found none)]

/-- Two flights of a key run that was dropped once, and the end of the first one leaves the second
one registered. -/
theorem single_flight_overlapping :
    ∃ t u : Traffic,
      (start 1 1 .empty).run? {} overlapping = some t ∧ t.step? {} (.finish 0) = some u ∧
        t.running ⟨"GET:/orders"⟩ = 2 ∧ t.cache.entry? ⟨"GET:/orders"⟩ = none ∧
          u.cache.entries = t.cache.entries ∧ u.cache.registered = t.cache.registered ∧
            ∃ moment : Moment {} (start 1 1 .empty) overlapping t,
              t.running ⟨"GET:/orders"⟩ ≤
                1 + moment.after.countP (Event.drops ⟨"GET:/orders"⟩) := by
  obtain ⟨t, ht⟩ := Option.isSome_iff_exists.mp
    (by decide +kernel : ((start 1 1 .empty).run? {} overlapping).isSome)
  have hfirst : ((start 1 1 .empty).run? {} overlapping).bind (·.callers[0]?) =
      some ⟨⟨"GET:/orders"⟩, .loaded 0 (.found none)⟩ := by decide +kernel
  have hflight : ((start 1 1 .empty).run? {} overlapping).bind
      (·.cache.flight? ⟨"GET:/orders"⟩) = some 1 := by decide +kernel
  have hrunning : ((start 1 1 .empty).run? {} overlapping).map
      (·.running ⟨"GET:/orders"⟩) = some 2 := by decide +kernel
  have hfinish : (((start 1 1 .empty).run? {} overlapping).bind
      (·.step? {} (.finish 0))).isSome := by decide +kernel
  rw [ht, Option.bind_some] at hfirst hflight hfinish
  rw [ht, Option.map_some, Option.some.injEq] at hrunning
  obtain ⟨u, hu⟩ := Option.isSome_iff_exists.mp hfinish
  obtain ⟨-, hleads, habsent, hbound, hend⟩ := Run.single_flight (run_of_run? ht)
  have hdetached := (hleads 0 _ 0 ⟨_, hfirst, rfl, rfl⟩).resolve_left (by simp [hflight])
  obtain ⟨moment, hdetaches⟩ := hdetached
  obtain ⟨hentries, hregistered, -⟩ := hend moment 0 _ 0 _ u hdetaches hfirst (step_of_step? hu)
  obtain ⟨moment', i, flight, -, -, -, hle⟩ :=
    (hbound ⟨"GET:/orders"⟩).resolve_left (by simp [hrunning])
  exact ⟨t, u, ht, hu, hrunning, habsent _ _ hflight, hentries, hregistered, moment', hle⟩

end Reached

end Traffic

end ApiDrift
