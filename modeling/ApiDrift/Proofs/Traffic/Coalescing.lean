import ApiDrift.Proofs.Traffic.Exclusive
import ApiDrift.Proofs.Traffic.Tally

/-!
# Requests that share a load

Callers who request one key that is neither cached nor being loaded share a single lookup in the
store, in whatever order they look the key up, board, load it and wake. Whoever boards before the
flight has ended joins it. Whoever boards later finds in the cache what the flight left there,
because a flight leaves its result before it is taken off the books.
-/

namespace ApiDrift

/-- How many milliseconds pass in an event. -/
def Event.duration : Event → Nat
  | .advance milliseconds => milliseconds
  | _ => 0

/-- How many milliseconds pass in events. -/
def elapsed : List Event → Nat
  | [] => 0
  | event :: rest => event.duration + elapsed rest

/-- One more event takes its time. -/
theorem elapsed_concat (events : List Event) (event : Event) :
    elapsed (events ++ [event]) = elapsed events + event.duration := by
  induction events with
  | nil => simp [elapsed]
  | cons first rest ih => rw [List.cons_append, elapsed, elapsed, ih, Nat.add_assoc]

/-- The caller who goes on in an event. -/
def Event.caller? : Event → Option Nat
  | .board i | .load i _ | .finish i | .wake i => some i
  | _ => none

/-- How often a request goes on at most. -/
def Phase.ahead : Phase → Nat
  | .missed => 3
  | .leads _ => 2
  | .waits _ | .loaded .. => 1
  | .answered _ => 0

/-- No request goes on more than three times. -/
theorem Phase.ahead_le (phase : Phase) : phase.ahead ≤ 3 := by
  cases phase <;> simp [Phase.ahead]

/-- An event while callers from `first` on request a key, and nobody requests anything else. Lookups
in the store succeed, and nobody drops the key. -/
def Event.Serves (key : EndpointKey) (first : Nat) : Event → Prop
  | .arrive other => other = key
  | .board i | .finish i | .wake i => first ≤ i
  | .load i answer => first ≤ i ∧ ∃ model, answer = .found model
  | .evict other | .drop _ other => other ≠ key
  | .advance _ | .accept _ | .write .. => True

namespace Traffic

variable {limits : Limits} {s t u : Traffic} {event : Event} {events : List Event}
  {key : EndpointKey} {flight : FlightId} {model : CachedModel}

/-- How often a caller goes on at most, who may not have come yet. -/
def ahead (s : Traffic) (i : Nat) : Nat :=
  match s.callers[i]? with
  | some caller => caller.phase.ahead
  | none => 3

/-- No caller goes on more than three times. -/
theorem ahead_le (s : Traffic) (i : Nat) : s.ahead i ≤ 3 := by
  unfold ahead
  split
  · exact Phase.ahead_le _
  · exact Nat.le_refl 3

/-- As much is ahead of a caller who stands where it stood. -/
theorem ahead_congr {i : Nat} (h : t.callers[i]? = s.callers[i]?) : t.ahead i = s.ahead i := by
  rw [ahead, ahead, h]

/-- When a caller goes on, there is less ahead of this caller, and no more of any other. -/
theorem ahead_of_set {i j : Nat} {old new : Caller} (hold : s.callers[j]? = some old)
    (hcallers : t.callers = s.callers.set j new) (hless : new.phase.ahead < old.phase.ahead) :
    t.ahead i + (if some j = some i then 1 else 0) ≤ s.ahead i := by
  by_cases hi : j = i
  · subst hi
    obtain ⟨hj, -⟩ := List.getElem?_eq_some_iff.mp hold
    rw [if_pos rfl, ahead, ahead, hold, hcallers, List.getElem?_set_self hj]
    exact hless
  · have hsame : t.callers[i]? = s.callers[i]? := by rw [hcallers, List.getElem?_set_ne hi]
    have hother : some j ≠ some i := by simpa using hi
    rw [if_neg hother]
    exact Nat.le_of_eq (ahead_congr hsame)

/-- A step leaves less ahead of the caller who goes on, and no more of any other. -/
theorem ahead_of_step (hstep : Step limits s event t) (i : Nat) :
    t.ahead i + (if event.caller? = some i then 1 else 0) ≤ s.ahead i := by
  cases hstep with
  | arrive key =>
    have hevent : (Event.arrive key).caller? ≠ some i := by simp [Event.caller?]
    rw [if_neg hevent, Nat.add_zero]
    by_cases hi : i < s.callers.length
    · have hsame : (s.arrive key).callers[i]? = s.callers[i]? := List.getElem?_append_left hi
      exact Nat.le_of_eq (ahead_congr hsame)
    · have hcomes : s.ahead i = 3 := by
        rw [ahead, List.getElem?_eq_none (Nat.le_of_not_lt hi)]
      exact hcomes ▸ ahead_le (s.arrive key) i
  | board hcaller =>
    refine ahead_of_set hcaller rfl ?_
    cases (s.cache.board s.now _).1 <;> simp [Boarding.phase, Phase.ahead]
  | load hcaller | finish hcaller | wake hcaller =>
    exact ahead_of_set hcaller rfl (by simp [Phase.ahead])
  | evict | advance | accept | write | drop => exact Nat.le_refl _

/-- In a run, a caller goes on no more often than was ahead. -/
theorem Run.count_caller_add_ahead_le (hrun : Run limits s events t) (i : Nat) :
    events.countP (fun event => event.caller? = some i) + t.ahead i ≤ s.ahead i := by
  induction hrun with
  | nil => simp
  | snoc _ hstep ih =>
    have := ahead_of_step hstep i
    rw [List.countP_append, List.countP_singleton]
    simp only [decide_eq_true_eq]
    omega

/-- In a run, no caller goes on more than three times. -/
theorem Run.count_caller_le (hrun : Run limits s events t) (i : Nat) :
    events.countP (fun event => event.caller? = some i) ≤ 3 := by
  have hcount := hrun.count_caller_add_ahead_le i
  have hahead := s.ahead_le i
  omega

/-- Among the events there is one lookup in the store, by the given caller, and it found what the
store had of the key then. -/
def LoadedOnce (store : Store) (key : EndpointKey) (events : List Event) (i : Nat)
    (model : CachedModel) : Prop :=
  ∃ before after, events = before ++ .load i (.found model) :: after ∧
    before.countP Event.isLoad = 0 ∧ after.countP Event.isLoad = 0 ∧
      model = (store.putAll (written before)).find? key

/-- A load stays the only one when something else happens. -/
theorem LoadedOnce.snoc {store : Store} {i : Nat} (h : LoadedOnce store key events i model)
    (hevent : event.isLoad = false) : LoadedOnce store key (events ++ [event]) i model := by
  obtain ⟨before, after, rfl, hbefore, hafter, hmodel⟩ := h
  refine ⟨before, after ++ [event], by simp, hbefore, ?_, hmodel⟩
  rw [List.countP_append, hafter, List.countP_singleton, hevent]
  rfl

/-- There is one load among the events. -/
theorem LoadedOnce.countP_isLoad {store : Store} {i : Nat}
    (h : LoadedOnce store key events i model) : events.countP Event.isLoad = 1 := by
  obtain ⟨before, after, rfl, hbefore, hafter, -⟩ := h
  rw [List.countP_append, List.countP_cons, hbefore, hafter]
  rfl

/-- How far the requests are that share a load. -/
inductive Stage where
  /-- Nobody has boarded. -/
  | idle
  /-- The leader has not looked into the store. -/
  | loading (leader : Nat) (flight : FlightId)
  /-- The leader has found a model. -/
  | loaded (leader : Nat) (flight : FlightId) (model : CachedModel)
  /-- The flight has ended, and its model is cached. -/
  | landed (flight : FlightId) (model : CachedModel)

namespace Stage

/-- The leader and its flight. -/
def leader? : Stage → Option (Nat × FlightId)
  | .loading leader flight | .loaded leader flight _ => some (leader, flight)
  | .idle | .landed .. => none

/-- The model that was found. -/
def found? : Stage → Option CachedModel
  | .loaded _ _ model | .landed _ model => some model
  | .idle | .loading .. => none

/-- The flight that has ended, and its model. -/
def landed? : Stage → Option (FlightId × CachedModel)
  | .landed flight model => some (flight, model)
  | .idle | .loading .. | .loaded .. => none

/-- Where a caller may stand. -/
def Allows (i : Nat) (phase : Phase) : Stage → Prop
  | .idle => phase = .missed
  | .loading leader flight =>
    (i = leader ∧ phase = .leads flight) ∨
      (i ≠ leader ∧ (phase = .missed ∨ phase = .waits flight))
  | .loaded leader flight model =>
    (i = leader ∧ phase = .loaded flight (.found model)) ∨
      (i ≠ leader ∧ (phase = .missed ∨ phase = .waits flight))
  | .landed flight model =>
    phase = .missed ∨ phase = .waits flight ∨ phase = .answered (.found model)

/-- The entry that the key has, if it was used since a time. -/
def Cached (key : EndpointKey) (since : Nat) (entry : Option CacheEntry) : Stage → Prop
  | .landed _ model => ∃ last, since ≤ last ∧ entry = some ⟨key, model, last⟩
  | .idle | .loading .. | .loaded .. => entry = none

variable {stage : Stage} {i leader : Nat}

/-- A caller who does not lead may have missed the key at any stage. -/
theorem allows_missed (h : ∀ flight, stage.leader? ≠ some (i, flight)) :
    stage.Allows i .missed := by
  cases stage with
  | idle => rfl
  | loading leader flight | loaded leader flight model =>
    refine .inr ⟨?_, .inl rfl⟩
    rintro rfl
    exact h flight rfl
  | landed flight model => exact .inl rfl

/-- A caller who has missed the key may wait for the flight of the leader. -/
theorem Allows.waits (h : stage.Allows i .missed)
    (hstage : stage.leader? = some (leader, flight)) : stage.Allows i (.waits flight) := by
  cases stage with
  | idle | landed => cases hstage
  | loading | loaded =>
    cases hstage
    rcases h with ⟨-, hleads⟩ | ⟨hne, -⟩
    · cases hleads
    · exact .inr ⟨hne, .inr rfl⟩

/-- A lookup finds the model of the flight that has ended, as long as entries from then are
fresh. -/
theorem Cached.lookup {cache : Cache} {since now : Nat}
    (h : stage.Cached key since (cache.entry? key)) (hsince : since ≤ now)
    (hfresh : now - since < cache.ttl) :
    (cache.lookup now key).1 = stage.landed?.map Prod.snd ∧
      stage.Cached key since (Cache.entry? (cache.lookup now key).2 key) := by
  cases stage with
  | idle | loading leader flight | loaded leader flight model =>
    rw [Cache.lookup_of_entry?_eq_none h]
    exact ⟨rfl, h⟩
  | landed flight model =>
    obtain ⟨last, hlast, hentry⟩ := h
    have hstill : cache.isFresh now ⟨key, model, last⟩ = true := by
      rw [Cache.isFresh, decide_eq_true_eq]
      exact Nat.lt_of_le_of_lt (Nat.sub_le_sub_left hlast now) hfresh
    obtain ⟨hfound, hafter⟩ := Cache.lookup_of_fresh hentry hstill
    exact ⟨hfound, now, hsince, hafter⟩

end Stage

/-- Between `s` and `t`, callers who arrived behind `s` share a load of a key. -/
structure Shares (key : EndpointKey) (s : Traffic) (events : List Event) (stage : Stage)
    (t : Traffic) : Prop where
  /-- Callers from before stand where they stood. -/
  early : ∀ {i : Nat}, i < s.callers.length → t.callers[i]? = s.callers[i]?
  /-- Later callers request the key, and stand where the stage allows. -/
  callers : ∀ {i : Nat} {caller}, s.callers.length ≤ i → t.callers[i]? = some caller →
    caller.key = key ∧ stage.Allows i caller.phase
  /-- One of the later callers leads. -/
  led : ∀ {leader flight}, stage.leader? = some (leader, flight) →
    s.callers.length ≤ leader ∧ Leads t.callers leader key flight
  /-- The flight of the leader is registered, and no other one. -/
  flight : t.cache.flight? key = stage.leader?.map Prod.snd
  /-- The key has an entry exactly when the flight has ended. -/
  entry : stage.Cached key s.now (t.cache.entry? key)
  /-- The flight that has ended has a result. -/
  result : ∀ {flight model}, stage.landed? = some (flight, model) →
    t.results.lookup flight = some (.ok model)
  /-- Until the leader has found something there was no lookup in the store. -/
  unloaded : stage.found? = none → events.countP Event.isLoad = 0
  /-- When the leader has found something, it was in the only lookup. -/
  loaded : ∀ {model}, stage.found? = some model → ∃ i, LoadedOnce s.store key events i model

/-- Before anybody arrives, nobody shares a load. -/
theorem shares_refl (hentry : s.cache.entry? key = none) (hflight : s.cache.flight? key = none) :
    Shares key s [] .idle s where
  early _ := rfl
  callers {i caller} hi hcaller := by
    rw [List.getElem?_eq_none hi] at hcaller
    cases hcaller
  led h := by cases h
  flight := hflight
  entry := hentry
  result h := by cases h
  unloaded _ := rfl
  loaded h := by cases h

namespace Shares

variable {stage : Stage} {i : Nat} {old : Caller} {phase : Phase}

/-- Callers of a stage after one of the later ones went on. -/
theorem callers_set (h : Shares key s events stage t) (stage' : Stage)
    (hold : t.callers[i]? = some old) (hallows : stage'.Allows i phase)
    (hothers : ∀ {j phase}, j ≠ i → stage.Allows j phase → stage'.Allows j phase) {j : Nat}
    {caller : Caller} (hj : s.callers.length ≤ j)
    (hcaller : (t.callers.set i ⟨key, phase⟩)[j]? = some caller) :
    caller.key = key ∧ stage'.Allows j caller.phase := by
  by_cases hji : j = i
  · subst hji
    rw [List.getElem?_set_self (List.getElem?_eq_some_iff.mp hold).1] at hcaller
    cases hcaller
    exact ⟨rfl, hallows⟩
  · rw [List.getElem?_set_ne (Ne.symm hji)] at hcaller
    obtain ⟨hkey, hold⟩ := h.callers hj hcaller
    exact ⟨hkey, hothers hji hold⟩

/-- Callers from before stay where they are when a later one goes on. -/
theorem early_set (h : Shares key s events stage t) (hi : s.callers.length ≤ i) {j : Nat}
    (hj : j < s.callers.length) (new : Caller) :
    (t.callers.set i new)[j]? = s.callers[j]? := by
  rw [List.getElem?_set_ne (by omega), h.early hj]

/-- What was loaded at a stage stays so when something else happens. -/
theorem loads_snoc (h : Shares key s events stage t) (hevent : event.isLoad = false) :
    (stage.found? = none → (events ++ [event]).countP Event.isLoad = 0) ∧
      ∀ {model}, stage.found? = some model →
        ∃ i, LoadedOnce s.store key (events ++ [event]) i model := by
  constructor
  · intro hstage
    rw [List.countP_append, h.unloaded hstage, List.countP_singleton, hevent]
    rfl
  · intro model hstage
    obtain ⟨i, hloaded⟩ := h.loaded hstage
    exact ⟨i, hloaded.snoc hevent⟩

/-- The stage stays when the views of the key stay. -/
theorem of_same (h : Shares key s events stage t) (hevent : event.isLoad = false)
    (hcallers : u.callers = t.callers) (hresults : u.results = t.results)
    (hflight : u.cache.flight? key = t.cache.flight? key)
    (hentry : u.cache.entry? key = t.cache.entry? key) :
    Shares key s (events ++ [event]) stage u where
  early := hcallers ▸ h.early
  callers := hcallers ▸ h.callers
  led := hcallers ▸ h.led
  flight := hflight.trans h.flight
  entry := hentry ▸ h.entry
  result := hresults ▸ h.result
  unloaded := (h.loads_snoc hevent).1
  loaded := (h.loads_snoc hevent).2

/-- The stage stays when a caller who does not lead goes on. -/
theorem of_set (h : Shares key s events stage t) (hevent : event.isLoad = false)
    (hi : s.callers.length ≤ i) (hold : t.callers[i]? = some old) (hled : old.phase.led? = none)
    (hallows : stage.Allows i phase) (hcallers : u.callers = t.callers.set i ⟨key, phase⟩)
    (hresults : u.results = t.results) (hflight : u.cache.flight? key = t.cache.flight? key)
    (hentry : stage.Cached key s.now (u.cache.entry? key)) :
    Shares key s (events ++ [event]) stage u where
  early {j} hj := hcallers ▸ h.early_set hi hj _
  callers {j caller} hj hcaller := by
    rw [hcallers] at hcaller
    exact h.callers_set stage hold hallows (fun _ => id) hj hcaller
  led {leader flight} hstage := by
    obtain ⟨hleader, caller, hcaller, hkey, hleads⟩ := h.led hstage
    have hne : leader ≠ i := by
      rintro rfl
      rw [hold] at hcaller
      cases hcaller
      rw [hled] at hleads
      cases hleads
    rw [hcallers]
    exact ⟨hleader, (leads_set hold).mpr (.inr ⟨hne, caller, hcaller, hkey, hleads⟩)⟩
  flight := hflight.trans h.flight
  entry := hentry
  result := hresults ▸ h.result
  unloaded := (h.loads_snoc hevent).1
  loaded := (h.loads_snoc hevent).2

/-- A caller who arrives misses the key, or is answered with the model that is cached. -/
theorem arrive (h : Shares key s events stage t) (hnow : s.now ≤ t.now)
    (hfresh : t.now - s.now < t.cache.ttl) (hlength : s.callers.length ≤ t.callers.length) :
    Shares key s (events ++ [.arrive key]) stage (t.arrive key) := by
  obtain ⟨hlooked, hentries⟩ := t.cache.firstLookup_entries t.now key
  obtain ⟨hfound, hcached⟩ := h.entry.lookup hnow hfresh
  have hleader : ∀ flight, stage.leader? ≠ some (t.callers.length, flight) := by
    intro flight hstage
    obtain ⟨-, caller, hcaller, -⟩ := h.led hstage
    simp at hcaller
  have hallows : stage.Allows t.callers.length
      (.ofFirstLookup (t.cache.firstLookup t.now key).1) := by
    rw [hlooked, hfound]
    cases stage with
    | landed flight model => exact .inr (.inr rfl)
    | idle | loading | loaded => exact Stage.allows_missed hleader
  constructor
  case early =>
    intro i hi
    rw [Traffic.arrive, List.getElem?_append_left (by omega), h.early hi]
  case callers =>
    intro i caller hi hcaller
    rcases getElem?_of_append hcaller with hcaller | ⟨rfl, rfl⟩
    · exact h.callers hi hcaller
    · exact ⟨rfl, hallows⟩
  case led =>
    intro leader flight hstage
    obtain ⟨hi, hleads⟩ := h.led hstage
    refine ⟨hi, (leads_append ?_).mpr hleads⟩
    cases (t.cache.firstLookup t.now key).1 <;> rfl
  case flight => exact ((t.cache.sameFlights_firstLookup t.now key).flight?_eq key).trans h.flight
  case entry =>
    rw [Traffic.arrive, Cache.entry?_of_entries hentries key]
    exact hcached
  case result => exact h.result
  case unloaded => exact (h.loads_snoc rfl).1
  case loaded => exact (h.loads_snoc rfl).2

/-- A caller who boards leads a flight, or joins the one that is registered, or is answered with the
model that is cached. -/
theorem board (h : Shares key s events stage t) (hnow : s.now ≤ t.now)
    (hfresh : t.now - s.now < t.cache.ttl) (hi : s.callers.length ≤ i)
    (hcaller : t.callers[i]? = some ⟨key, .missed⟩) :
    ∃ stage', Shares key s (events ++ [.board i]) stage' (t.board i key) := by
  obtain ⟨hfound, hcached⟩ := h.entry.lookup hnow hfresh
  have hboarding := t.cache.board_fst t.now key
  rw [hfound, h.flight] at hboarding
  have hcallers : (t.board i key).callers =
      t.callers.set i ⟨key, (t.cache.board t.now key).1.phase⟩ := rfl
  rw [hboarding] at hcallers
  have hentry : stage.Cached key s.now ((t.board i key).cache.entry? key) := by
    rw [Traffic.board, Cache.entry?_of_entries (Cache.board_entries_and_settings ..).1 key]
    exact hcached
  have hmissed := (h.callers hi hcaller).2
  cases stage with
  | idle =>
    have hregistered := Cache.board_registered hboarding
    refine ⟨.loading i t.cache.nextFlight, ?_⟩
    constructor
    case early => exact fun hj => hcallers ▸ h.early_set hi hj _
    case callers =>
      intro j caller hj hset
      rw [hcallers] at hset
      exact h.callers_set (.loading i t.cache.nextFlight) hcaller (.inl ⟨rfl, rfl⟩)
        (fun hji hmissed => .inr ⟨hji, .inl hmissed⟩) hj hset
    case led =>
      rintro leader flight hstage
      cases hstage
      rw [hcallers]
      exact ⟨hi, (leads_set hcaller).mpr (.inl ⟨rfl, rfl, rfl⟩)⟩
    case flight => exact (Cache.flight?_of_registered hregistered key).trans (if_pos rfl)
    case entry => exact hentry
    case result => exact fun hstage => by cases hstage
    case unloaded => exact fun _ => (h.loads_snoc rfl).1 rfl
    case loaded => exact fun hstage => by cases hstage
  | loading leader flight | loaded leader flight model =>
    have hsame : Cache.SameFlights t.cache (t.cache.board t.now key).2 := by
      refine Cache.sameFlights_board fun other hleads => ?_
      cases hboarding.symm.trans hleads
    exact ⟨_, h.of_set rfl hi hcaller rfl (hmissed.waits rfl) hcallers rfl (hsame.flight?_eq key)
      hentry⟩
  | landed flight model =>
    have hsame : Cache.SameFlights t.cache (t.cache.board t.now key).2 := by
      refine Cache.sameFlights_board fun other hleads => ?_
      cases hboarding.symm.trans hleads
    exact ⟨_, h.of_set rfl hi hcaller rfl (.inr (.inr rfl)) hcallers rfl (hsame.flight?_eq key)
      hentry⟩

/-- The leader finds the model that the store has of the key. -/
theorem load (h : Shares key s events stage t) (hstore : t.store = s.store.putAll (written events))
    (hi : s.callers.length ≤ i) (hcaller : t.callers[i]? = some ⟨key, .leads flight⟩)
    (hmodel : model = t.store.find? key) :
    Shares key s (events ++ [.load i (.found model)]) (.loaded i flight model)
      (t.load i key flight (.found model)) := by
  have hleads := (h.callers hi hcaller).2
  cases stage with
  | idle => cases hleads
  | landed other found => rcases hleads with hleads | hleads | hleads <;> cases hleads
  | loaded leader other found =>
    rcases hleads with ⟨-, hleads⟩ | ⟨-, hleads | hleads⟩ <;> cases hleads
  | loading leader other =>
    obtain ⟨rfl, rfl⟩ : i = leader ∧ flight = other := by
      rcases hleads with ⟨hi, hleads⟩ | ⟨-, hleads | hleads⟩ <;> cases hleads
      exact ⟨hi, rfl⟩
    constructor
    case early => exact fun hj => h.early_set hi hj _
    case callers =>
      intro j caller hj hset
      refine h.callers_set (.loaded i flight model) hcaller (.inl ⟨rfl, rfl⟩)
        (fun hji hstands => ?_) hj hset
      exact .inr (hstands.resolve_left fun hleader => hji hleader.1)
    case led =>
      rintro leader flight hstage
      cases hstage
      exact ⟨hi, (leads_set hcaller).mpr (.inl ⟨rfl, rfl, rfl⟩)⟩
    case flight => exact h.flight
    case entry => exact h.entry
    case result => exact fun hstage => by cases hstage
    case unloaded => exact fun hstage => by cases hstage
    case loaded =>
      rintro model hstage
      cases hstage
      exact ⟨i, events, [], rfl, h.unloaded rfl, rfl, hstore ▸ hmodel⟩

/-- The flight of the leader ends, and leaves its model in the cache. -/
theorem finish (h : Shares key s events stage t) (hexclusive : t.Exclusive)
    (hnow : s.now ≤ t.now) (hi : s.callers.length ≤ i) {answer : LookupAnswer}
    (hcaller : t.callers[i]? = some ⟨key, .loaded flight answer⟩) :
    ∃ stage', Shares key s (events ++ [.finish i]) stage' (t.finish i key flight answer) := by
  have hloaded := (h.callers hi hcaller).2
  cases stage with
  | idle => cases hloaded
  | landed other found => rcases hloaded with hloaded | hloaded | hloaded <;> cases hloaded
  | loading leader other =>
    rcases hloaded with ⟨-, hloaded⟩ | ⟨-, hloaded | hloaded⟩ <;> cases hloaded
  | loaded leader other model =>
    obtain ⟨rfl, rfl, rfl⟩ : i = leader ∧ flight = other ∧ answer = .found model := by
      rcases hloaded with ⟨hi, hloaded⟩ | ⟨-, hloaded | hloaded⟩ <;> cases hloaded
      exact ⟨hi, rfl, rfl⟩
    have hkept : flight ∉ t.cache.detached :=
      fun hdetached => (hexclusive.detached hdetached).2 key h.flight
    refine ⟨.landed flight model, ?_⟩
    constructor
    case early => exact fun hj => h.early_set hi hj _
    case callers =>
      intro j caller hj hset
      refine h.callers_set (.landed flight model) hcaller (.inr (.inr rfl))
        (fun hji hstands => ?_) hj hset
      exact (hstands.resolve_left fun hleader => hji hleader.1).2.imp_right .inl
    case led => exact fun hstage => by cases hstage
    case flight => exact (Cache.flight?_finish ..).trans (if_pos ⟨rfl, h.flight⟩)
    case entry => exact ⟨t.now, hnow, Cache.entry?_finish hkept⟩
    case result =>
      rintro other found hstage
      cases hstage
      exact (Cache.lookup_cons_ite ..).trans (if_pos rfl)
    case unloaded => exact fun hstage => by cases hstage
    case loaded => exact (h.loads_snoc rfl).2

/-- A caller who waited for the flight is answered with its model. -/
theorem wake (h : Shares key s events stage t) (horderly : t.Orderly)
    (hi : s.callers.length ≤ i) (hcaller : t.callers[i]? = some ⟨key, .waits flight⟩)
    {outcome : LoadOutcome} (hresult : t.results.lookup flight = some outcome) :
    ∃ stage', Shares key s (events ++ [.wake i]) stage' (t.wake i key outcome) := by
  have hwaits := (h.callers hi hcaller).2
  have hended : ∀ leader, stage.leader? ≠ some (leader, flight) := by
    intro leader hstage
    rw [horderly.running (h.led hstage).2] at hresult
    cases hresult
  cases stage with
  | idle => cases hwaits
  | loading leader other | loaded leader other model =>
    rcases hwaits with ⟨-, hwaits⟩ | ⟨-, hwaits | hwaits⟩ <;> cases hwaits
    exact absurd rfl (hended leader)
  | landed other model =>
    rcases hwaits with hwaits | hwaits | hwaits <;> cases hwaits
    rw [h.result rfl] at hresult
    cases hresult
    exact ⟨_, h.of_set rfl hi hcaller rfl (.inr (.inr rfl)) rfl rfl rfl h.entry⟩

/-- Each step leads from one stage to the same or a later one. -/
theorem step (h : Shares key s events stage t) (horderly : t.Orderly) (hexclusive : t.Exclusive)
    (hstore : t.store = s.store.putAll (written events))
    (hlength : s.callers.length ≤ t.callers.length) (hnow : s.now ≤ t.now)
    (hfresh : t.now - s.now < t.cache.ttl) (hserves : event.Serves key s.callers.length)
    (hstep : Step limits t event u) : ∃ stage', Shares key s (events ++ [event]) stage' u := by
  cases hstep with
  | arrive other =>
    obtain rfl : other = key := hserves
    exact ⟨stage, h.arrive hnow hfresh hlength⟩
  | board hcaller =>
    obtain ⟨rfl, -⟩ := h.callers hserves hcaller
    exact h.board hnow hfresh hserves hcaller
  | load hcaller hanswer =>
    obtain ⟨hi, model, rfl⟩ := hserves
    obtain ⟨rfl, -⟩ := h.callers hi hcaller
    exact ⟨_, h.load hstore hi hcaller hanswer⟩
  | finish hcaller =>
    obtain ⟨rfl, -⟩ := h.callers hserves hcaller
    exact h.finish hexclusive hnow hserves hcaller
  | wake hcaller hresult =>
    obtain ⟨rfl, -⟩ := h.callers hserves hcaller
    exact h.wake horderly hserves hcaller hresult
  | evict other | @drop i models other rest hintake =>
    have hother : ¬key = other := Ne.symm hserves
    exact ⟨stage, h.of_same rfl rfl rfl ((Cache.flight?_evict ..).trans (if_neg hother))
      ((Cache.entry?_evict ..).trans (if_neg hother))⟩
  | advance | accept | write => exact ⟨stage, h.of_same rfl rfl rfl rfl rfl⟩

/-- As many callers have yet to board as before, when all later ones have. -/
theorem unboarded_eq (h : Shares key s events stage t)
    (hboarded : ∀ {i : Nat} {caller}, s.callers.length ≤ i → t.callers[i]? = some caller →
      caller.hasMissed = false) : t.unboarded = s.unboarded := by
  have hearly : t.callers.take s.callers.length = s.callers := by
    refine List.ext_getElem? fun i => ?_
    rw [List.getElem?_take]
    split
    · next hi => exact h.early hi
    · next hi => exact (List.getElem?_eq_none (Nat.le_of_not_lt hi)).symm
  have hlate : (t.callers.drop s.callers.length).countP Caller.hasMissed = 0 := by
    refine List.countP_eq_zero.mpr fun caller hmem => ?_
    obtain ⟨i, hi⟩ := List.getElem?_of_mem hmem
    rw [List.getElem?_drop] at hi
    simp [hboarded (Nat.le_add_right ..) hi]
  rw [unboarded, ← List.take_append_drop s.callers.length t.callers, List.countP_append, hearly,
    hlate]
  rfl

/-- When no later caller can go on, all of them are answered with the model that was found. -/
theorem answered (h : Shares key s events stage t)
    (hrequested : s.callers.length < t.callers.length)
    (hdone : ∀ i event u, s.callers.length ≤ i → event.caller? = some i → ¬Step limits t event u) :
    ∃ model, stage.found? = some model ∧
      ∀ i caller, s.callers.length ≤ i → t.callers[i]? = some caller →
        caller = ⟨key, .answered (.found model)⟩ := by
  have hmissed : ∀ {i}, s.callers.length ≤ i → t.callers[i]? ≠ some ⟨key, .missed⟩ :=
    fun hi hcaller => hdone _ _ _ hi rfl (.board hcaller)
  cases stage with
  | idle =>
    obtain ⟨⟨name, phase⟩, hcaller⟩ : ∃ caller, t.callers[s.callers.length]? = some caller :=
      ⟨_, List.getElem?_eq_getElem hrequested⟩
    obtain ⟨rfl, rfl⟩ := h.callers (Nat.le_refl _) hcaller
    exact absurd hcaller (hmissed (Nat.le_refl _))
  | loading leader flight =>
    obtain ⟨hi, ⟨name, phase⟩, hcaller, rfl, -⟩ := h.led rfl
    obtain ⟨-, ⟨-, rfl⟩ | ⟨hne, -⟩⟩ := h.callers hi hcaller
    · exact absurd (.load hcaller trivial) (hdone _ (.load leader .unwound) _ hi rfl)
    · exact absurd rfl hne
  | loaded leader flight model =>
    obtain ⟨hi, ⟨name, phase⟩, hcaller, rfl, -⟩ := h.led rfl
    obtain ⟨-, ⟨-, rfl⟩ | ⟨hne, -⟩⟩ := h.callers hi hcaller
    · exact absurd (.finish hcaller) (hdone _ _ _ hi rfl)
    · exact absurd rfl hne
  | landed flight model =>
    refine ⟨model, rfl, fun i caller hi hcaller => ?_⟩
    obtain ⟨name, phase⟩ := caller
    obtain ⟨rfl, rfl | rfl | rfl⟩ := h.callers hi hcaller
    · exact absurd hcaller (hmissed hi)
    · exact absurd (.wake hcaller (h.result rfl)) (hdone _ _ _ hi rfl)
    · rfl

end Shares

/-- Time passes by what passes in the events. -/
theorem Run.now_eq (hrun : Run limits s events t) : t.now = s.now + elapsed events := by
  induction hrun with
  | nil => rfl
  | snoc _ hstep ih =>
    rw [elapsed_concat, ← Nat.add_assoc, ← ih]
    cases hstep <;> rfl

/-- Callers who request a key that is neither cached nor being loaded share a load. -/
theorem Run.shares {maxEntries ttl : Nat} {store : Store} {before : List Event}
    (hrun : Run limits s events t) (hbefore : Run limits (start maxEntries ttl store) before s)
    (hentry : s.cache.entry? key = none) (hflight : s.cache.flight? key = none)
    (hserves : ∀ event ∈ events, event.Serves key s.callers.length)
    (helapsed : elapsed events < ttl) : ∃ stage, Shares key s events stage t := by
  induction hrun with
  | nil => exact ⟨.idle, shares_refl hentry hflight⟩
  | @snoc events t u event hrun hstep ih =>
    rw [elapsed_concat] at helapsed
    have hearlier : elapsed events < ttl := Nat.lt_of_le_of_lt (Nat.le_add_right ..) helapsed
    obtain ⟨stage, hshares⟩ := ih (fun e he => hserves e (List.mem_append_left _ he)) hearlier
    have hreached := hbefore.trans hrun
    have hnow := hrun.now_eq
    have httl : t.cache.ttl = ttl := hreached.uses.sameSettings.ttl
    exact hshares.step hreached.orderly hreached.exclusive hrun.store_eq hrun.callers_length_le
      (by omega) (by omega) (hserves event (by simp)) hstep

/-- When callers request one key that is neither cached nor being loaded, nobody drops it, lookups
in the store succeed and less time passes than entries stay fresh, then no caller goes on more than
three times, and in the end, when none of these callers can go on, there was one lookup in the
store, every one of them is answered with what it found, and each of them counts as one hit or
miss. -/
theorem Run.coalesced {maxEntries ttl : Nat} {store : Store} {before : List Event}
    (hbefore : Run limits (start maxEntries ttl store) before s)
    (hentry : s.cache.entry? key = none) (hflight : s.cache.flight? key = none)
    (hrun : Run limits s events t) (hserves : ∀ event ∈ events, event.Serves key s.callers.length)
    (helapsed : elapsed events < ttl) (hrequested : s.callers.length < t.callers.length)
    (hdone : ∀ i event u, s.callers.length ≤ i → event.caller? = some i →
      ¬Step limits t event u) :
    (∀ j, events.countP (fun event => event.caller? = some j) ≤ 3) ∧
    ∃ i model, LoadedOnce s.store key events i model ∧
      (∀ j caller, s.callers.length ≤ j → t.callers[j]? = some caller →
        caller = ⟨key, .answered (.found model)⟩) ∧
      t.cache.counters.loads = s.cache.counters.loads + 1 ∧
      t.cache.counters.hits + t.cache.counters.misses =
        s.cache.counters.hits + s.cache.counters.misses +
          (t.callers.length - s.callers.length) := by
  obtain ⟨stage, hshares⟩ := hrun.shares hbefore hentry hflight hserves helapsed
  obtain ⟨model, hfound, hanswered⟩ := hshares.answered hrequested hdone
  obtain ⟨i, hloaded⟩ := hshares.loaded hfound
  refine ⟨hrun.count_caller_le, i, model, hloaded, hanswered, ?_, ?_⟩
  · have hs := ((tallied_start ..).run hbefore).loads
    have ht := ((tallied_start ..).run (hbefore.trans hrun)).loads
    rw [List.countP_append, hloaded.countP_isLoad] at ht
    omega
  · have hs := ((tallied_start ..).run hbefore).requests
    have ht := ((tallied_start ..).run (hbefore.trans hrun)).requests
    have hunboarded := hshares.unboarded_eq fun hi hcaller => by
      rw [hanswered _ _ hi hcaller]
      rfl
    unfold Cache.requests at hs ht
    omega

/-- A caller who is answered does not go on. -/
theorem not_step_of_answered {i : Nat}
    (hcaller : ∀ caller, t.callers[i]? = some caller → ∃ answer, caller.phase = .answered answer)
    (hevent : event.caller? = some i) : ¬Step limits t event u := by
  intro hstep
  cases hstep with
  | board hphase | load hphase | finish hphase | wake hphase =>
    cases hevent
    obtain ⟨answer, hanswer⟩ := hcaller _ hphase
    cases hanswer
  | arrive | evict | advance | accept | write | drop => cases hevent

/-- One caller leads, one joins, one misses and boards when the flight has ended, and one comes
later. -/
def shared : List Event :=
  [.arrive ⟨"GET:/orders"⟩, .arrive ⟨"GET:/orders"⟩, .board 0, .arrive ⟨"GET:/orders"⟩,
    .load 0 (.found none), .board 1, .advance 1, .finish 0, .board 2, .wake 1,
    .arrive ⟨"GET:/orders"⟩]

/-- All four are answered by one lookup in the store, and count as two hits and two misses. -/
theorem coalesced_shared :
    ∃ t : Traffic,
      (start 1 2 .empty).run? {} shared = some t ∧
        (∃ i model, LoadedOnce .empty ⟨"GET:/orders"⟩ shared i model) ∧
          t.cache.counters.loads = 1 ∧ t.cache.counters.hits + t.cache.counters.misses = 4 := by
  obtain ⟨t, ht⟩ := Option.isSome_iff_exists.mp
    (by decide +kernel : ((start 1 2 .empty).run? {} shared).isSome)
  have hcallers : ((start 1 2 .empty).run? {} shared).map (·.callers) =
      some (List.replicate 4 ⟨⟨"GET:/orders"⟩, .answered (.found none)⟩) := by decide +kernel
  rw [ht, Option.map_some, Option.some.injEq] at hcallers
  have hserves : ∀ event ∈ shared, event.Serves ⟨"GET:/orders"⟩ 0 := by
    simp [shared, Event.Serves]
  have hanswered : ∀ (i : Nat) (caller : Caller), t.callers[i]? = some caller →
      ∃ answer, caller.phase = .answered answer := by
    intro i caller hcaller
    rw [hcallers] at hcaller
    rw [List.eq_of_mem_replicate (List.mem_of_getElem? hcaller)]
    exact ⟨_, rfl⟩
  obtain ⟨-, i, model, hloaded, -, hloads, hrequests⟩ := Run.coalesced .nil rfl rfl (run_of_run? ht)
    hserves (by decide) (by simp [hcallers, start])
    fun i event u _ hevent => not_step_of_answered (hanswered i) hevent
  refine ⟨t, ht, ⟨i, model, hloaded⟩, hloads, hrequests.trans ?_⟩
  simp [hcallers, start, Cache.new]

end Traffic

end ApiDrift
