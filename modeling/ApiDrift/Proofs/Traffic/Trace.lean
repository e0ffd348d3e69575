import ApiDrift.Proofs.Traffic

/-!
# Traces

A run says which events happened, a trace also between which states. So what happened can be counted
by what it did: how many callers joined a flight, how many flights ended with a failure, with a
result that was not kept and with one that was inserted, and how many dropped keys had an entry.
-/

namespace ApiDrift

/-- One step of traffic. -/
structure Transition where
  /-- The state before it. -/
  source : Traffic
  /-- What happens. -/
  event : Event
  /-- The state behind it. -/
  target : Traffic

namespace Transition

variable (transition : Transition)

/-- Whether a request arrives. -/
def requests : Bool :=
  match transition.event with
  | .arrive _ => true
  | _ => false

/-- Whether a caller joins a flight. -/
def joins : Bool :=
  match transition.event with
  | .board i =>
    match transition.target.callers[i]? with
    | some ⟨_, .waits _⟩ => true
    | _ => false
  | _ => false

/-- The flight that ends, with its key and its outcome. -/
def landing? : Option (EndpointKey × FlightId × LoadOutcome) :=
  match transition.event with
  | .finish i =>
    match transition.source.callers[i]? with
    | some ⟨key, .loaded flight answer⟩ => some (key, flight, answer.outcome key)
    | _ => none
  | _ => none

/-- Whether a flight was detached before the step. -/
def detached (flight : FlightId) : Bool :=
  transition.source.cache.detached.contains flight

/-- Whether a flight ends that was detached, with a result, which is not kept. -/
def discards : Bool :=
  transition.landing?.any fun (_, flight, outcome) => outcome.isOk && transition.detached flight

/-- Whether a flight ends that was not detached, with a result, which is inserted. -/
def inserts : Bool :=
  transition.landing?.any fun (_, flight, outcome) => outcome.isOk && !transition.detached flight

/-- The key that is dropped. -/
def dropped? : Option EndpointKey :=
  match transition.event with
  | .evict key | .drop _ key => some key
  | _ => none

/-- Whether a key is dropped. -/
def drops : Bool :=
  transition.dropped?.isSome

/-- Whether a key is dropped that has an entry. -/
def dropsEntry : Bool :=
  transition.dropped?.any fun key => (transition.source.cache.entry? key).isSome

variable {transition}

/-- A flight that ends is one of a leader whose lookup in the store is over. -/
theorem landing?_eq_some {key : EndpointKey} {flight : FlightId} {outcome : LoadOutcome}
    (h : transition.landing? = some (key, flight, outcome)) :
    ∃ i answer, transition.event = .finish i ∧
      transition.source.callers[i]? = some ⟨key, .loaded flight answer⟩ ∧
        outcome = answer.outcome key := by
  unfold landing? at h
  split at h
  · next i hevent =>
    split at h
    · next hcaller =>
      cases h
      exact ⟨i, _, hevent, hcaller, rfl⟩
    · cases h
  · cases h

/-- A caller who joins a flight boards, and waits for the flight behind that. -/
theorem exists_waits_of_joins (h : transition.joins = true) :
    ∃ i key flight, transition.event = .board i ∧
      transition.target.callers[i]? = some ⟨key, .waits flight⟩ := by
  unfold joins at h
  split at h
  · next i hevent =>
    split at h
    · next hcaller => exact ⟨i, _, _, hevent, hcaller⟩
    · cases h
  · cases h

end Transition

namespace Traffic

variable {limits : Limits} {s t : Traffic} {events : List Event} {transitions : List Transition}

/-- A run of any length, with its steps in order. -/
inductive Trace (limits : Limits) (s : Traffic) : List Transition → Traffic → Prop
  | nil : Trace limits s [] s
  | snoc {transitions : List Transition} {t u : Traffic} {event : Event}
    (htrace : Trace limits s transitions t) (hstep : Step limits t event u) :
    Trace limits s (transitions ++ [⟨t, event, u⟩]) u

/-- A trace is a run of its events. -/
theorem Trace.run (h : Trace limits s transitions t) :
    Run limits s (transitions.map Transition.event) t := by
  induction h with
  | nil => exact .nil
  | snoc _ hstep ih =>
    rw [List.map_append]
    exact ih.snoc hstep

/-- Every run has a trace. -/
theorem Run.exists_trace (hrun : Run limits s events t) :
    ∃ transitions, transitions.map Transition.event = events ∧ Trace limits s transitions t := by
  induction hrun with
  | nil => exact ⟨[], rfl, .nil⟩
  | snoc _ hstep ih =>
    obtain ⟨transitions, rfl, htrace⟩ := ih
    exact ⟨_, List.map_append, htrace.snoc hstep⟩

/-- What is in a trace is a step of a state that a run reaches. -/
theorem Trace.exists_run_of_mem (h : Trace limits s transitions t) {transition : Transition}
    (hmem : transition ∈ transitions) :
    (∃ events, Run limits s events transition.source) ∧
      Step limits transition.source transition.event transition.target := by
  induction h with
  | nil => cases hmem
  | snoc htrace hstep ih =>
    rcases List.mem_append.mp hmem with hmem | hmem
    · exact ih hmem
    · rw [List.mem_singleton] at hmem
      subst hmem
      exact ⟨⟨_, htrace.run⟩, hstep⟩

end Traffic

end ApiDrift
