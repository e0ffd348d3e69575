import ApiDrift.Proofs.Store.Batch
import ApiDrift.Session
import Mathlib.Data.List.Induction

/-!
# Traffic

Many callers may request keys while many batches are taken in, over one store with one cache in
front of it. Here the steps of all of them interleave in any order. A request for a key is a first
lookup, boarding, and for a leader the lookup in the store and the end of its flight; one that
joined a flight waits for its result. A lookup in the store may itself request other keys: these
requests are callers like any others, whose steps come before the lookup of the leader is over. A
batch that has no obstacle is written model by model, and behind that key by key dropped from the
cache. Besides that, keys may be dropped by anybody and time passes. A run records its events, so
the writes to the store have an order.
-/

namespace ApiDrift

/-- Where a request for a key stands. -/
inductive Phase where
  /-- The first lookup found nothing. -/
  | missed
  /-- The request waits for the result of a flight. -/
  | waits (flight : FlightId)
  /-- The request leads a flight and has not looked into the store yet. -/
  | leads (flight : FlightId)
  /-- The lookup of a leader in the store is over, and its flight is not. -/
  | loaded (flight : FlightId) (answer : LookupAnswer)
  /-- The request is answered. -/
  | answered (answer : LookupAnswer)

/-- A request for a key. -/
structure Caller where
  /-- The key. -/
  key : EndpointKey
  /-- Where it stands. -/
  phase : Phase

/-- A batch that is being taken in. -/
structure Intake where
  /-- The models of the batch. -/
  models : List Model
  /-- What is still to be written to the store, in this order. -/
  unwritten : List (EndpointKey × Model)
  /-- The keys that are still to be dropped from the cache. -/
  undropped : List EndpointKey

/-- A store with a cache in front of it, and all that happens to them. -/
structure Traffic where
  /-- The learned models. -/
  store : Store
  /-- What was looked up lately. -/
  cache : Cache
  /-- The time in milliseconds. -/
  now : Nat
  /-- The results of the flights that ended, the last one first. -/
  results : List (FlightId × LoadOutcome)
  /-- The requests for keys, the first one first. -/
  callers : List Caller
  /-- The batches that are or were taken in, the first one first. -/
  intakes : List Intake

deriving instance DecidableEq for LookupAnswer, Phase, Caller, Intake

/-- What happens in one step. -/
inductive Event where
  /-- A request for a key arrives and looks it up for the first time. -/
  | arrive (key : EndpointKey)
  /-- A caller boards. -/
  | board (caller : Nat)
  /-- The lookup of a leader in the store. -/
  | load (caller : Nat) (answer : LookupAnswer)
  /-- The end of the flight of a leader. -/
  | finish (caller : Nat)
  /-- A caller that waited gets the result of the flight. -/
  | wake (caller : Nat)
  /-- Somebody drops a key. -/
  | evict (key : EndpointKey)
  /-- So many milliseconds pass. -/
  | advance (milliseconds : Nat)
  /-- A batch of models is accepted. -/
  | accept (models : List Model)
  /-- A model of a batch is written to the store. -/
  | write (intake : Nat) (key : EndpointKey) (model : Model)
  /-- A key of a batch is dropped. -/
  | drop (intake : Nat) (key : EndpointKey)

/-- Where a request stands after its first lookup. -/
def Phase.ofFirstLookup : Option CachedModel → Phase
  | some model => .answered (.found model)
  | none => .missed

/-- Where a request stands after boarding. -/
def Boarding.phase : Boarding → Phase
  | .hit model => .answered (.found model)
  | .joins flight => .waits flight
  | .leads flight => .leads flight

/-- The flight that a request leads and that has not ended. -/
def Phase.led? : Phase → Option FlightId
  | .leads flight | .loaded flight _ => some flight
  | .missed | .waits _ | .answered _ => none

/-- What a load that ended so is for the callers that joined it. -/
def LookupAnswer.outcome (key : EndpointKey) : LookupAnswer → LoadOutcome
  | .found model => .ok model
  | .failed error => .error error
  | .unwound => .error (.loadAbandoned key.text)

/-- The batch is written, and all its keys are dropped. -/
def Intake.IsDone (intake : Intake) : Prop :=
  intake.unwritten = [] ∧ intake.undropped = []

/-- An item of a list in which one was replaced is an old one or the new one at its place. -/
theorem getElem?_of_set {α : Type} {items : List α} {i j : Nat} {new item : α}
    (h : (items.set i new)[j]? = some item) : items[j]? = some item ∨ (j = i ∧ item = new) := by
  rw [List.getElem?_set] at h
  split at h
  · next hij =>
    split at h
    · exact .inr ⟨hij.symm, (Option.some.inj h).symm⟩
    · cases h
  · exact .inl h

/-- An item of a list that got one more is an old one or the new one at the end. -/
theorem getElem?_of_append {α : Type} {items : List α} {j : Nat} {new item : α}
    (h : (items ++ [new])[j]? = some item) :
    items[j]? = some item ∨ (j = items.length ∧ item = new) := by
  rw [List.getElem?_append] at h
  split at h
  · exact .inl h
  · next hj =>
    obtain ⟨hlt, hitem⟩ := List.getElem?_eq_some_iff.mp h
    rw [List.length_singleton] at hlt
    refine .inr ⟨by omega, ?_⟩
    rw [List.getElem_singleton] at hitem
    exact hitem.symm

/-- How many items of a list satisfy a condition after one was replaced. -/
theorem countP_set_add {α : Type} {p : α → Bool} {items : List α} {i : Nat} {old new : α}
    (h : items[i]? = some old) :
    (items.set i new).countP p + (if p old then 1 else 0) =
      items.countP p + if p new then 1 else 0 := by
  induction items generalizing i with
  | nil => simp at h
  | cons first rest ih =>
    cases i with
    | zero =>
      rw [List.getElem?_cons_zero, Option.some.injEq] at h
      rw [List.set_cons_zero, List.countP_cons, List.countP_cons, h]
      omega
    | succ i =>
      rw [List.getElem?_cons_succ] at h
      have := ih h
      rw [List.set_cons_succ, List.countP_cons, List.countP_cons]
      omega

/-- As many items of a list satisfy a condition after one was replaced, of which it holds as well. -/
theorem countP_set_of_eq {α : Type} {p : α → Bool} {items : List α} {i : Nat} {old new : α}
    (h : items[i]? = some old) (hp : p new = p old) :
    (items.set i new).countP p = items.countP p := by
  have hadd : (items.set i new).countP p + _ = items.countP p + _ := countP_set_add h
  rw [hp] at hadd
  exact Nat.add_right_cancel hadd

namespace Traffic

/-- Nothing has happened yet over a store. -/
def start (maxEntries ttl : Nat) (store : Store) : Traffic where
  store
  cache := .new maxEntries ttl
  now := 0
  results := []
  callers := []
  intakes := []

section Effects

variable (s : Traffic)

/-- A request for a key arrives and looks it up for the first time. -/
def arrive (key : EndpointKey) : Traffic :=
  { s with
    cache := (s.cache.firstLookup s.now key).2
    callers := s.callers ++ [⟨key, .ofFirstLookup (s.cache.firstLookup s.now key).1⟩] }

/-- A caller of a key boards. -/
def board (i : Nat) (key : EndpointKey) : Traffic :=
  { s with
    cache := (s.cache.board s.now key).2
    callers := s.callers.set i ⟨key, (s.cache.board s.now key).1.phase⟩ }

/-- The lookup of a leader in the store ends so. -/
def load (i : Nat) (key : EndpointKey) (flight : FlightId) (answer : LookupAnswer) : Traffic :=
  { s with
    cache := s.cache.countLoad
    callers := s.callers.set i ⟨key, .loaded flight answer⟩ }

/-- The flight of a leader ends. -/
def finish (i : Nat) (key : EndpointKey) (flight : FlightId) (answer : LookupAnswer) : Traffic :=
  { s with
    cache := s.cache.finish s.now key flight (answer.outcome key)
    results := (flight, answer.outcome key) :: s.results
    callers := s.callers.set i ⟨key, .answered answer⟩ }

/-- A caller that waited gets an outcome. -/
def wake (i : Nat) (key : EndpointKey) (outcome : LoadOutcome) : Traffic :=
  { s with callers := s.callers.set i ⟨key, .answered (.ofOutcome outcome)⟩ }

/-- A key is dropped from the cache. -/
def evict (key : EndpointKey) : Traffic :=
  { s with cache := s.cache.evict key }

/-- Some milliseconds pass. -/
def advance (milliseconds : Nat) : Traffic :=
  { s with now := s.now + milliseconds }

/-- An intake begins. -/
def accept (intake : Intake) : Traffic :=
  { s with intakes := s.intakes ++ [intake] }

/-- A model is written for an intake, which goes on as given. -/
def write (i : Nat) (key : EndpointKey) (model : Model) (intake : Intake) : Traffic :=
  { s with
    store := s.store.put key model
    intakes := s.intakes.set i intake }

/-- A key is dropped for an intake, which goes on as given. -/
def drop (i : Nat) (key : EndpointKey) (intake : Intake) : Traffic :=
  { s.evict key with intakes := s.intakes.set i intake }

end Effects

/-- A lookup of a key in the store may fail or unwind, and if it finds something, that is what the
store has. -/
def Allows (s : Traffic) (key : EndpointKey) : LookupAnswer → Prop
  | .found model => model = s.store.find? key
  | .failed _ | .unwound => True

/-- One step. The models of a batch may be written in any order, and their keys dropped in any
order. -/
inductive Step (limits : Limits) (s : Traffic) : Event → Traffic → Prop
  | arrive (key : EndpointKey) : Step limits s (.arrive key) (s.arrive key)
  | board {i : Nat} {key : EndpointKey} (hcaller : s.callers[i]? = some ⟨key, .missed⟩) :
    Step limits s (.board i) (s.board i key)
  | load {i : Nat} {key : EndpointKey} {flight : FlightId} {answer : LookupAnswer}
    (hcaller : s.callers[i]? = some ⟨key, .leads flight⟩) (hanswer : s.Allows key answer) :
    Step limits s (.load i answer) (s.load i key flight answer)
  | finish {i : Nat} {key : EndpointKey} {flight : FlightId} {answer : LookupAnswer}
    (hcaller : s.callers[i]? = some ⟨key, .loaded flight answer⟩) :
    Step limits s (.finish i) (s.finish i key flight answer)
  | wake {i : Nat} {key : EndpointKey} {flight : FlightId} {outcome : LoadOutcome}
    (hcaller : s.callers[i]? = some ⟨key, .waits flight⟩)
    (hresult : s.results.lookup flight = some outcome) :
    Step limits s (.wake i) (s.wake i key outcome)
  | evict (key : EndpointKey) : Step limits s (.evict key) (s.evict key)
  | advance (milliseconds : Nat) : Step limits s (.advance milliseconds) (s.advance milliseconds)
  | accept {models : List Model} {batch : List (EndpointKey × Model)} {keys : List EndpointKey}
    (hmodels : ingestionObstacle? limits models = none)
    (hbatch : batch.Perm (firstOfEachKey models)) (hkeys : keys.Perm (batch.map Prod.fst)) :
    Step limits s (.accept models) (s.accept ⟨models, batch, keys⟩)
  | write {i : Nat} {models : List Model} {key : EndpointKey} {model : Model}
    {rest : List (EndpointKey × Model)} {keys : List EndpointKey}
    (hintake : s.intakes[i]? = some ⟨models, (key, model) :: rest, keys⟩) :
    Step limits s (.write i key model) (s.write i key model ⟨models, rest, keys⟩)
  | drop {i : Nat} {models : List Model} {key : EndpointKey} {rest : List EndpointKey}
    (hintake : s.intakes[i]? = some ⟨models, [], key :: rest⟩) :
    Step limits s (.drop i key) (s.drop i key ⟨models, [], rest⟩)

/-- A run of any length, with its events in order. -/
inductive Run (limits : Limits) (s : Traffic) : List Event → Traffic → Prop
  | nil : Run limits s [] s
  | snoc {events : List Event} {t u : Traffic} {event : Event} (hrun : Run limits s events t)
    (hstep : Step limits t event u) : Run limits s (events ++ [event]) u

instance (s : Traffic) (key : EndpointKey) (answer : LookupAnswer) :
    Decidable (s.Allows key answer) :=
  match answer with
  | .found model => inferInstanceAs (Decidable (model = s.store.find? key))
  | .failed _ | .unwound => isTrue trivial

/-- The state behind an event, if it can happen. A batch is written in the order of its models. -/
def step? (limits : Limits) (s : Traffic) : Event → Option Traffic
  | .arrive key => some (s.arrive key)
  | .board i =>
    match s.callers[i]? with
    | some ⟨key, .missed⟩ => some (s.board i key)
    | _ => none
  | .load i answer =>
    match s.callers[i]? with
    | some ⟨key, .leads flight⟩ =>
      if s.Allows key answer then some (s.load i key flight answer) else none
    | _ => none
  | .finish i =>
    match s.callers[i]? with
    | some ⟨key, .loaded flight answer⟩ => some (s.finish i key flight answer)
    | _ => none
  | .wake i =>
    match s.callers[i]? with
    | some ⟨key, .waits flight⟩ => (s.results.lookup flight).map (s.wake i key)
    | _ => none
  | .evict key => some (s.evict key)
  | .advance milliseconds => some (s.advance milliseconds)
  | .accept models =>
    if (ingestionObstacle? limits models).isNone then
      some (s.accept ⟨models, firstOfEachKey models, (firstOfEachKey models).map Prod.fst⟩)
    else none
  | .write i key model =>
    match s.intakes[i]? with
    | some ⟨models, entry :: rest, keys⟩ =>
      if entry = (key, model) then some (s.write i key model ⟨models, rest, keys⟩) else none
    | _ => none
  | .drop i key =>
    match s.intakes[i]? with
    | some ⟨models, [], first :: rest⟩ =>
      if first = key then some (s.drop i key ⟨models, [], rest⟩) else none
    | _ => none

/-- What is computed is a step. -/
theorem step_of_step? {limits : Limits} {s t : Traffic} {event : Event}
    (h : s.step? limits event = some t) : Step limits s event t := by
  cases event with
  | arrive key =>
    cases h
    exact .arrive key
  | board i =>
    simp only [step?] at h
    split at h
    · next hcaller =>
      cases h
      exact .board hcaller
    · cases h
  | load i answer =>
    simp only [step?] at h
    split at h
    · next hcaller =>
      split at h
      · next hanswer =>
        cases h
        exact .load hcaller hanswer
      · cases h
    · cases h
  | finish i =>
    simp only [step?] at h
    split at h
    · next hcaller =>
      cases h
      exact .finish hcaller
    · cases h
  | wake i =>
    simp only [step?] at h
    split at h
    · next hcaller =>
      obtain ⟨outcome, hresult, rfl⟩ := Option.map_eq_some_iff.mp h
      exact .wake hcaller hresult
    · cases h
  | evict key =>
    cases h
    exact .evict key
  | advance milliseconds =>
    cases h
    exact .advance milliseconds
  | accept models =>
    simp only [step?] at h
    split at h
    · next hmodels =>
      cases h
      exact .accept (Option.isNone_iff_eq_none.mp hmodels) (.refl _) (.refl _)
    · cases h
  | write i key model =>
    simp only [step?] at h
    split at h
    · next hintake =>
      split at h
      · next hentry =>
        cases h
        subst hentry
        exact .write hintake
      · cases h
    · cases h
  | drop i key =>
    simp only [step?] at h
    split at h
    · next hintake =>
      split at h
      · next hfirst =>
        cases h
        subst hfirst
        exact .drop hintake
      · cases h
    · cases h

/-- The state behind events, if they can happen one after another. -/
def run? (limits : Limits) (s : Traffic) (events : List Event) : Option Traffic :=
  events.foldlM (fun t event => t.step? limits event) s

/-- What is computed is a run. -/
theorem run_of_run? {limits : Limits} {s t : Traffic} {events : List Event}
    (h : s.run? limits events = some t) : Run limits s events t := by
  induction events using List.reverseRecOn generalizing t with
  | nil =>
    cases h
    exact .nil
  | append_singleton events event ih =>
    rw [run?, List.foldlM_append] at h
    obtain ⟨u, hu, hstep⟩ := Option.bind_eq_some_iff.mp h
    refine (ih hu).snoc (step_of_step? ?_)
    simpa using hstep

/-- A run that goes on where another one ended. -/
theorem Run.trans {limits : Limits} {s t u : Traffic} {before after : List Event}
    (hst : Run limits s before t) (htu : Run limits t after u) :
    Run limits s (before ++ after) u := by
  induction htu with
  | nil => rwa [List.append_nil]
  | snoc _ hstep ih =>
    rw [← List.append_assoc]
    exact ih.snoc hstep

/-- The models that were written to the store, in the order of the writes. -/
def written (events : List Event) : List (EndpointKey × Model) :=
  events.filterMap fun event =>
    match event with
    | .write _ key model => some (key, model)
    | _ => none

theorem written_append (before after : List Event) :
    written (before ++ after) = written before ++ written after :=
  List.filterMap_append

/-- The store has what was written to it, a later write over an earlier one. -/
theorem Run.store_eq {limits : Limits} {s t : Traffic} {events : List Event}
    (h : Run limits s events t) : t.store = s.store.putAll (written events) := by
  induction h with
  | nil => rfl
  | snoc _ hstep ih =>
    rw [written_append, Store.putAll_append, ← ih]
    cases hstep <;> rfl

/-- The model of a key at some time of a run that started over a store. -/
def WasCurrent (store : Store) (events : List Event) (key : EndpointKey)
    (model : CachedModel) : Prop :=
  ∃ past, past <+: events ∧ model = (store.putAll (written past)).find? key

/-- What was current stays so in a longer run. -/
theorem WasCurrent.mono {store : Store} {events longer : List Event} {key : EndpointKey}
    {model : CachedModel} (h : WasCurrent store events key model) (hlonger : events <+: longer) :
    WasCurrent store longer key model := by
  obtain ⟨past, hpast, hmodel⟩ := h
  exact ⟨past, hpast.trans hlonger, hmodel⟩

/-- What the store has at the end of a run is current. -/
theorem Run.wasCurrent {limits : Limits} {s t : Traffic} {events : List Event}
    (h : Run limits s events t) (key : EndpointKey) :
    WasCurrent s.store events key (t.store.find? key) :=
  ⟨events, List.prefix_refl events, by rw [h.store_eq]⟩

end Traffic

end ApiDrift
