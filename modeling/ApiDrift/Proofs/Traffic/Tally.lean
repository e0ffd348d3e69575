import ApiDrift.Proofs.Cache.Tally
import ApiDrift.Proofs.Traffic

/-!
# Traffic and its cache

A run of traffic is a sequence of operations on its cache. It counts one hit or one miss for every
caller, except for those that have missed and not boarded yet, and one load for every lookup in the
store.
-/

namespace ApiDrift

/-- Whether an event is a lookup in the store. -/
def Event.isLoad : Event → Bool
  | .load _ _ => true
  | _ => false

/-- Whether a caller has missed and not boarded yet. -/
def Caller.hasMissed (caller : Caller) : Bool :=
  caller.phase == .missed

namespace Traffic

open Cache (Use Uses)

variable {limits : Limits} {s t : Traffic} {event : Event} {events : List Event}

/-- A step of traffic does one thing with the cache, or leaves it alone. -/
theorem Step.uses (hstep : Step limits s event t) : Uses (s.cache, s.now) (t.cache, t.now) := by
  cases hstep with
  | arrive key => exact .single (.firstLookup key)
  | board hcaller => exact .single (.board _)
  | load hcaller hanswer => exact .single .countLoad
  | finish hcaller => exact .single (.finish _ _ _)
  | evict key => exact .single (.evict key)
  | drop hintake => exact .single (.evict _)
  | advance milliseconds => exact .single (.wait milliseconds)
  | wake | accept | write => exact .refl

/-- A run of traffic is a sequence of operations on the cache. -/
theorem Run.uses (hrun : Run limits s events t) : Uses (s.cache, s.now) (t.cache, t.now) := by
  induction hrun with
  | nil => exact .refl
  | snoc _ hstep ih => exact ih.trans hstep.uses

/-- How many callers have missed and not boarded yet. -/
def unboarded (s : Traffic) : Nat :=
  s.callers.countP Caller.hasMissed

/-- How many callers have missed and not boarded after one went on. -/
theorem unboarded_add {i : Nat} {old new : Caller} (hold : s.callers[i]? = some old)
    (hcallers : t.callers = s.callers.set i new) :
    t.unboarded + (if old.hasMissed then 1 else 0) =
      s.unboarded + if new.hasMissed then 1 else 0 := by
  rw [unboarded, hcallers]
  exact countP_set_add hold

/-- As many callers have yet to board after one went on that had boarded. -/
theorem unboarded_set {i : Nat} {old new : Caller} (hold : s.callers[i]? = some old)
    (hcallers : t.callers = s.callers.set i new) (hnew : new.hasMissed = old.hasMissed) :
    t.unboarded = s.unboarded := by
  rw [unboarded, hcallers]
  exact countP_set_of_eq hold hnew

/-- What was counted of requests and loads, and the callers that were not counted yet. -/
structure Tallied (loads : Nat) (s : Traffic) : Prop where
  /-- Every caller counts as a hit or a miss, or has yet to board. -/
  requests : s.cache.requests + s.unboarded = s.callers.length
  /-- So many loads were counted. -/
  loads : s.cache.counters.loads = loads

/-- Nothing is counted before anything has happened. -/
theorem tallied_start (maxEntries ttl : Nat) (store : Store) :
    Tallied 0 (start maxEntries ttl store) :=
  ⟨rfl, rfl⟩

/-- Nothing more is counted when as many callers have missed. -/
theorem Tallied.of_same {loads : Nat} (h : Tallied loads s)
    (htally : Cache.SameTally s.cache t.cache) (hunboarded : t.unboarded = s.unboarded)
    (hlength : t.callers.length = s.callers.length) : Tallied loads t where
  requests := by rw [htally.requests, hunboarded, hlength, h.requests]
  loads := htally.loads.trans h.loads

/-- Each step counts what it should. -/
theorem Tallied.step {loads : Nat} (h : Tallied loads s) (hstep : Step limits s event t) :
    Tallied (loads + if event.isLoad then 1 else 0) t := by
  cases hstep with
  | arrive key =>
    obtain ⟨hrequests, hloads⟩ := s.cache.firstLookup_tally s.now key
    refine ⟨?_, hloads.trans h.loads⟩
    have hbefore := h.requests
    unfold unboarded at hbefore ⊢
    rw [Traffic.arrive, hrequests, List.countP_append, List.countP_singleton, List.length_append,
      List.length_singleton, ← hbefore]
    cases (s.cache.firstLookup s.now key).1 <;>
      simp only [Caller.hasMissed, Phase.ofFirstLookup] <;> simp <;> omega
  | @board i key hcaller =>
    obtain ⟨hrequests, hloads⟩ := s.cache.board_tally s.now key
    refine ⟨?_, hloads.trans h.loads⟩
    have hadd := unboarded_add (t := s.board i key) hcaller rfl
    have hold : Caller.hasMissed ⟨key, .missed⟩ = true := rfl
    have hnew : ¬Caller.hasMissed ⟨key, (s.cache.board s.now key).1.phase⟩ = true := by
      cases (s.cache.board s.now key).1 <;> simp [Caller.hasMissed, Boarding.phase]
    have hlength : (s.board i key).callers.length = s.callers.length := List.length_set
    have hcounted : (s.board i key).cache.requests = s.cache.requests + 1 := hrequests
    rw [if_pos hold, if_neg hnew] at hadd
    have := h.requests
    omega
  | @load i key flight answer hcaller hanswer =>
    have hunboarded := unboarded_set (t := s.load i key flight answer) hcaller rfl rfl
    refine ⟨?_, congrArg (· + 1) h.loads⟩
    rw [hunboarded, Traffic.load, List.length_set]
    exact h.requests
  | finish hcaller =>
    exact h.of_same (Cache.sameTally_finish ..) (unboarded_set hcaller rfl rfl) List.length_set
  | wake hcaller hresult =>
    exact h.of_same (.refl _) (unboarded_set hcaller rfl rfl) List.length_set
  | evict | drop | advance | accept | write => exact h.of_same ⟨rfl, rfl⟩ rfl rfl

/-- In a run as many loads are counted as there are lookups in the store. -/
theorem Tallied.run {loads : Nat} (h : Tallied loads s) (hrun : Run limits s events t) :
    Tallied (loads + events.countP Event.isLoad) t := by
  induction hrun with
  | nil => exact h
  | snoc _ hstep ih =>
    rw [List.countP_append, List.countP_singleton, ← Nat.add_assoc]
    exact ih.step hstep

end Traffic

end ApiDrift
