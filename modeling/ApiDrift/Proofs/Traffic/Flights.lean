import ApiDrift.Proofs.Cache.Views
import ApiDrift.Proofs.Traffic

/-!
# Flights in traffic

Every running flight has one leader, and it is registered for the key of its leader unless it was
detached. A registered flight is always a running one, and a caller that waits for a flight waits
for a running or an ended flight of its own key. Each step keeps this, so it holds in every run.
-/

namespace ApiDrift.Traffic

/-- One of the callers leads a running flight of a key. -/
def Leads (callers : List Caller) (i : Nat) (key : EndpointKey) (flight : FlightId) : Prop :=
  ∃ caller, callers[i]? = some caller ∧ caller.key = key ∧ caller.phase.led? = some flight

/-- The books on flights are in order. -/
structure Orderly (s : Traffic) : Prop where
  /-- No two callers lead one flight. -/
  unique : ∀ {i j key key' flight}, Leads s.callers i key flight → Leads s.callers j key' flight →
    i = j
  /-- A running flight is registered for its key, unless it was detached. -/
  registered : ∀ {i key flight}, Leads s.callers i key flight →
    s.cache.flight? key = some flight ∨ flight ∈ s.cache.detached
  /-- A running flight has a name that was given away. -/
  named : ∀ {i key flight}, Leads s.callers i key flight → flight < s.cache.nextFlight
  /-- A running flight has no result. -/
  running : ∀ {i key flight}, Leads s.callers i key flight → s.results.lookup flight = none
  /-- A registered flight is running. -/
  led : ∀ {key flight}, s.cache.flight? key = some flight → ∃ i, Leads s.callers i key flight
  /-- A caller waits for an ended flight or for a running one of its key. -/
  awaited : ∀ {key flight}, ⟨key, .waits flight⟩ ∈ s.callers →
    s.results.lookup flight ≠ none ∨ ∃ i, Leads s.callers i key flight
  /-- A flight that ended has a name that was given away. -/
  ended : ∀ {flight}, s.results.lookup flight ≠ none → flight < s.cache.nextFlight

/-- A running flight has one key. -/
theorem Orderly.key_unique {s : Traffic} (h : s.Orderly) {i j : Nat} {key key' : EndpointKey}
    {flight : FlightId} (hi : Leads s.callers i key flight) (hj : Leads s.callers j key' flight) :
    key = key' := by
  obtain rfl := h.unique hi hj
  obtain ⟨caller, hcaller, rfl, -⟩ := hi
  obtain ⟨caller', hcaller', rfl, -⟩ := hj
  rw [hcaller] at hcaller'
  cases hcaller'
  rfl

/-- Nobody leads a flight before anything has happened. -/
theorem orderly_start (maxEntries ttl : Nat) (store : Store) :
    Orderly (start maxEntries ttl store) := by
  have hnone : ∀ i key flight, ¬Leads [] i key flight := by
    rintro i key flight ⟨caller, hcaller, -⟩
    simp at hcaller
  constructor
  case unique =>
    intro i j key key' flight h
    exact absurd h (hnone i key flight)
  case registered =>
    intro i key flight h
    exact absurd h (hnone i key flight)
  case named =>
    intro i key flight h
    exact absurd h (hnone i key flight)
  case running =>
    intro i key flight h
    exact absurd h (hnone i key flight)
  case led =>
    intro key flight h
    cases h
  case awaited =>
    intro key flight h
    cases h
  case ended =>
    intro flight h
    exact absurd rfl h

section Callers

variable {callers : List Caller} {i j : Nat} {old new : Caller} {key : EndpointKey}
  {flight : FlightId}

/-- A new caller that leads no flight changes nothing about leaders. -/
theorem leads_append (hnew : new.phase.led? = none) :
    Leads (callers ++ [new]) j key flight ↔ Leads callers j key flight := by
  constructor
  · rintro ⟨caller, hcaller, hkey, hled⟩
    rw [List.getElem?_append] at hcaller
    split at hcaller
    · exact ⟨caller, hcaller, hkey, hled⟩
    · have hmem := List.mem_of_getElem? hcaller
      rw [List.mem_singleton] at hmem
      rw [hmem, hnew] at hled
      cases hled
  · rintro ⟨caller, hcaller, hrest⟩
    refine ⟨caller, ?_, hrest⟩
    rw [List.getElem?_append_left (List.getElem?_eq_some_iff.mp hcaller).1]
    exact hcaller

/-- Who leads which flight after one caller went on. -/
theorem leads_set (hold : callers[i]? = some old) :
    Leads (callers.set i new) j key flight ↔
      (j = i ∧ new.key = key ∧ new.phase.led? = some flight) ∨
        (j ≠ i ∧ Leads callers j key flight) := by
  have hlength : i < callers.length := (List.getElem?_eq_some_iff.mp hold).1
  by_cases hij : j = i
  · subst hij
    simp [Leads, hlength]
  · have hji : i ≠ j := fun h => hij h.symm
    simp [Leads, List.getElem?_set_ne hji, hij]

/-- A caller that goes on with the same flight, or with none as before, changes nothing about
leaders. -/
theorem leads_set_of_eq (hold : callers[i]? = some old) (hkey : new.key = old.key)
    (hled : new.phase.led? = old.phase.led?) :
    Leads (callers.set i new) j key flight ↔ Leads callers j key flight := by
  rw [leads_set hold, hkey, hled]
  by_cases hij : j = i
  · subst hij
    simp [Leads, hold]
  · simp [hij]

/-- A caller that begins to lead a flight is one more leader. -/
theorem leads_set_leads {other : EndpointKey} {flight' : FlightId}
    (hcaller : callers[i]? = some ⟨key, .missed⟩) :
    Leads (callers.set i ⟨key, .leads flight⟩) j other flight' ↔
      (j = i ∧ other = key ∧ flight' = flight) ∨ Leads callers j other flight' := by
  have hnot : ¬Leads callers i other flight' := by
    rintro ⟨caller, hsome, -, hled⟩
    rw [hcaller] at hsome
    cases hsome
    cases hled
  rw [leads_set hcaller]
  by_cases hji : j = i
  · subst hji
    simp [hnot, Phase.led?, eq_comm]
  · simp [hji]

end Callers

/-- The books stay in order when leaders, results and flights stay, and everybody who waits did so
before or joins the registered flight. -/
theorem Orderly.of_same {s t : Traffic} (h : s.Orderly)
    (hflights : Cache.SameFlights s.cache t.cache) (hresults : t.results = s.results)
    (hleads : ∀ i key flight, Leads t.callers i key flight ↔ Leads s.callers i key flight)
    (hwaits : ∀ key flight, ⟨key, .waits flight⟩ ∈ t.callers →
      ⟨key, .waits flight⟩ ∈ s.callers ∨ s.cache.flight? key = some flight) : t.Orderly := by
  constructor
  case unique =>
    intro i j key key' flight hi hj
    exact h.unique ((hleads ..).mp hi) ((hleads ..).mp hj)
  case registered =>
    intro i key flight hi
    rw [hflights.flight?_eq, hflights.detached]
    exact h.registered ((hleads ..).mp hi)
  case named =>
    intro i key flight hi
    rw [hflights.nextFlight]
    exact h.named ((hleads ..).mp hi)
  case running =>
    intro i key flight hi
    rw [hresults]
    exact h.running ((hleads ..).mp hi)
  case led =>
    intro key flight hkey
    rw [hflights.flight?_eq] at hkey
    obtain ⟨i, hi⟩ := h.led hkey
    exact ⟨i, (hleads ..).mpr hi⟩
  case awaited =>
    intro key flight hmem
    rw [hresults]
    rcases hwaits key flight hmem with hmem | hkey
    · rcases h.awaited hmem with hended | ⟨i, hi⟩
      · exact .inl hended
      · exact .inr ⟨i, (hleads ..).mpr hi⟩
    · obtain ⟨i, hi⟩ := h.led hkey
      exact .inr ⟨i, (hleads ..).mpr hi⟩
  case ended =>
    intro flight hended
    rw [hresults] at hended
    rw [hflights.nextFlight]
    exact h.ended hended

/-- Nobody waits for a flight who did not wait for it, or who went on to do so. -/
theorem mem_of_mem_set {callers : List Caller} {i : Nat} {new caller : Caller}
    (h : caller ∈ callers.set i new) : caller ∈ callers ∨ caller = new :=
  List.mem_or_eq_of_mem_set h

/-- The books stay in order when a caller registers a new flight and leads it. Its name was not
given away, so nobody led it before. -/
theorem Orderly.lead {s t : Traffic} (h : s.Orderly) {i : Nat} {key : EndpointKey}
    (hcaller : s.callers[i]? = some ⟨key, .missed⟩) (hfree : s.cache.flight? key = none)
    (hcallers : t.callers = s.callers.set i ⟨key, .leads s.cache.nextFlight⟩)
    (hresults : t.results = s.results)
    (hregistered : t.cache.registered = (key, s.cache.nextFlight) :: s.cache.registered)
    (hdetached : t.cache.detached = s.cache.detached)
    (hnext : t.cache.nextFlight = s.cache.nextFlight + 1) : t.Orderly := by
  have hflight := Cache.flight?_of_registered hregistered
  have hleads : ∀ {j other flight}, Leads t.callers j other flight ↔
      (j = i ∧ other = key ∧ flight = s.cache.nextFlight) ∨ Leads s.callers j other flight := by
    intro j other flight
    rw [hcallers]
    exact leads_set_leads hcaller
  have hnew : ∀ {j other}, ¬Leads s.callers j other s.cache.nextFlight :=
    fun hj => Nat.lt_irrefl _ (h.named hj)
  constructor
  case unique =>
    intro j j' other other' flight hj hj'
    rcases hleads.mp hj with ⟨hji, -, rfl⟩ | hj
    · rcases hleads.mp hj' with ⟨hji', -, -⟩ | hj'
      · exact hji.trans hji'.symm
      · exact absurd hj' hnew
    · rcases hleads.mp hj' with ⟨-, -, rfl⟩ | hj'
      · exact absurd hj hnew
      · exact h.unique hj hj'
  case registered =>
    intro j other flight hj
    rw [hflight, hdetached]
    rcases hleads.mp hj with ⟨-, rfl, rfl⟩ | hj
    · exact .inl (if_pos rfl)
    · refine (h.registered hj).imp_left fun hreg => ?_
      rw [if_neg, hreg]
      rintro rfl
      rw [hfree] at hreg
      cases hreg
  case named =>
    intro j other flight hj
    rw [hnext]
    rcases hleads.mp hj with ⟨-, -, rfl⟩ | hj
    · exact Nat.lt_succ_self _
    · exact Nat.lt_succ_of_lt (h.named hj)
  case running =>
    intro j other flight hj
    rw [hresults]
    rcases hleads.mp hj with ⟨-, -, rfl⟩ | hj
    · by_contra hresult
      exact absurd (h.ended hresult) (Nat.lt_irrefl _)
    · exact h.running hj
  case led =>
    intro other flight hreg
    rw [hflight] at hreg
    split at hreg
    · next hother => exact ⟨i, hleads.mpr (.inl ⟨rfl, hother, (Option.some.inj hreg).symm⟩)⟩
    · obtain ⟨j, hj⟩ := h.led hreg
      exact ⟨j, hleads.mpr (.inr hj)⟩
  case awaited =>
    intro other flight hmem
    rw [hcallers] at hmem
    rw [hresults]
    rcases mem_of_mem_set hmem with hmem | heq
    · exact (h.awaited hmem).imp_right fun ⟨j, hj⟩ => ⟨j, hleads.mpr (.inr hj)⟩
    · cases heq
  case ended =>
    intro flight hended
    rw [hresults] at hended
    rw [hnext]
    exact Nat.lt_succ_of_lt (h.ended hended)

/-- The books stay in order when a caller boards. -/
theorem Orderly.board {s : Traffic} (h : s.Orderly) {i : Nat} {key : EndpointKey}
    (hcaller : s.callers[i]? = some ⟨key, .missed⟩) :
    Orderly { s with
      cache := (s.cache.board s.now key).2
      callers := s.callers.set i ⟨key, (s.cache.board s.now key).1.phase⟩ } := by
  rcases s.cache.board_cases s.now key with ⟨model, hboarding, -, hsame⟩ |
    ⟨flight, hboarding, hjoined, hsame⟩ | ⟨hboarding, hfree, hregistered, hdetached, hnext⟩
  · rw [hboarding]
    refine h.of_same hsame rfl (fun _ _ _ => leads_set_of_eq hcaller rfl rfl) ?_
    intro other flight hmem
    rcases mem_of_mem_set hmem with hmem | heq
    · exact .inl hmem
    · cases heq
  · rw [hboarding]
    refine h.of_same hsame rfl (fun _ _ _ => leads_set_of_eq hcaller rfl rfl) ?_
    intro other flight' hmem
    rcases mem_of_mem_set hmem with hmem | heq
    · exact .inl hmem
    · cases heq
      exact .inr hjoined
  · rw [hboarding]
    exact h.lead hcaller hfree rfl rfl hregistered hdetached hnext

/-- Who leads a flight after one has ended: whoever led another one. -/
theorem Orderly.leads_set_answered {s : Traffic} (h : s.Orderly) {i j : Nat}
    {key other : EndpointKey} {flight flight' : FlightId} {answer : LookupAnswer}
    (hcaller : s.callers[i]? = some ⟨key, .loaded flight answer⟩) :
    Leads (s.callers.set i ⟨key, .answered answer⟩) j other flight' ↔
      flight' ≠ flight ∧ Leads s.callers j other flight' := by
  have hleader : Leads s.callers i key flight := ⟨_, hcaller, rfl, rfl⟩
  rw [leads_set hcaller]
  constructor
  · rintro (⟨-, -, hled⟩ | ⟨hji, hj⟩)
    · cases hled
    · refine ⟨?_, hj⟩
      rintro rfl
      exact hji (h.unique hj hleader)
  · rintro ⟨hne, hj⟩
    refine .inr ⟨?_, hj⟩
    rintro rfl
    obtain ⟨caller, hsome, -, hled⟩ := hj
    rw [hcaller] at hsome
    cases hsome
    exact hne (Option.some.inj hled).symm

/-- The books stay in order when a flight ends. -/
theorem Orderly.finish {s : Traffic} (h : s.Orderly) {i : Nat} {key : EndpointKey}
    {flight : FlightId} {answer : LookupAnswer}
    (hcaller : s.callers[i]? = some ⟨key, .loaded flight answer⟩) :
    Orderly { s with
      cache := s.cache.finish s.now key flight (answer.outcome key)
      results := (flight, answer.outcome key) :: s.results
      callers := s.callers.set i ⟨key, .answered answer⟩ } := by
  have hleader : Leads s.callers i key flight := ⟨_, hcaller, rfl, rfl⟩
  have hleads : ∀ {j other flight'},
      Leads (s.callers.set i ⟨key, .answered answer⟩) j other flight' ↔
        flight' ≠ flight ∧ Leads s.callers j other flight' := h.leads_set_answered hcaller
  constructor
  case unique =>
    intro j j' other other' flight' hj hj'
    exact h.unique (hleads.mp hj).2 (hleads.mp hj').2
  case registered =>
    intro j other flight' hj
    obtain ⟨hne, hj⟩ := hleads.mp hj
    rw [Cache.flight?_finish, Cache.finish_detached]
    rcases h.registered hj with hreg | hdet
    · refine .inl ?_
      rw [if_neg, hreg]
      rintro ⟨rfl, hreg'⟩
      rw [hreg] at hreg'
      exact hne (Option.some.inj hreg')
    · exact .inr ((List.mem_erase_of_ne hne).mpr hdet)
  case named =>
    intro j other flight' hj
    rw [Cache.finish_nextFlight]
    exact h.named (hleads.mp hj).2
  case running =>
    intro j other flight' hj
    obtain ⟨hne, hj⟩ := hleads.mp hj
    rw [Cache.lookup_cons_ite, if_neg hne]
    exact h.running hj
  case led =>
    intro other flight' hreg
    rw [Cache.flight?_finish] at hreg
    split at hreg
    · cases hreg
    · next hstays =>
      obtain ⟨j, hj⟩ := h.led hreg
      refine ⟨j, hleads.mpr ⟨?_, hj⟩⟩
      rintro rfl
      obtain rfl := h.key_unique hj hleader
      exact hstays ⟨rfl, hreg⟩
  case awaited =>
    intro other flight' hmem
    rw [Cache.lookup_cons_ite]
    rcases mem_of_mem_set hmem with hmem | heq
    · by_cases hf : flight' = flight
      · exact .inl (by simp [hf])
      · rw [if_neg hf]
        exact (h.awaited hmem).imp_right fun ⟨j, hj⟩ => ⟨j, hleads.mpr ⟨hf, hj⟩⟩
    · cases heq
  case ended =>
    intro flight' hended
    rw [Cache.lookup_cons_ite] at hended
    rw [Cache.finish_nextFlight]
    split at hended
    · next hf =>
      rw [hf]
      exact h.named hleader
    · exact h.ended hended

/-- The books stay in order when a key is dropped. -/
theorem Orderly.evict {s : Traffic} (h : s.Orderly) (key : EndpointKey) :
    Orderly { s with cache := s.cache.evict key } := by
  constructor
  case unique => exact h.unique
  case registered =>
    intro i other flight hi
    rw [Cache.flight?_evict, Cache.mem_evict_detached]
    rcases h.registered hi with hreg | hdet
    · by_cases hother : other = key
      · exact .inr (.inl (hother ▸ hreg))
      · exact .inl (by rw [if_neg hother, hreg])
    · exact .inr (.inr hdet)
  case named => exact h.named
  case running => exact h.running
  case led =>
    intro other flight hreg
    rw [Cache.flight?_evict] at hreg
    split at hreg
    · cases hreg
    · exact h.led hreg
  case awaited => exact h.awaited
  case ended => exact h.ended

/-- Every step keeps the books in order. -/
theorem Orderly.step {limits : Limits} {s t : Traffic} {event : Event} (h : s.Orderly)
    (hstep : Step limits s event t) : t.Orderly := by
  cases hstep with
  | arrive key =>
    have hled : (Phase.ofFirstLookup (s.cache.firstLookup s.now key).1).led? = none := by
      cases (s.cache.firstLookup s.now key).1 <;> rfl
    refine h.of_same (s.cache.sameFlights_firstLookup s.now key) rfl
      (fun _ _ _ => leads_append hled) ?_
    intro other flight hmem
    rcases List.mem_append.mp hmem with hmem | hmem
    · exact .inl hmem
    · cases hfound : (s.cache.firstLookup s.now key).1 <;>
        simp [hfound, Phase.ofFirstLookup] at hmem
  | board hcaller => exact h.board hcaller
  | load hcaller hanswer =>
    refine h.of_same ⟨rfl, rfl, rfl⟩ rfl (fun _ _ _ => leads_set_of_eq hcaller rfl rfl) ?_
    intro other flight hmem
    rcases mem_of_mem_set hmem with hmem | heq
    · exact .inl hmem
    · cases heq
  | finish hcaller => exact h.finish hcaller
  | wake hcaller hresult =>
    refine h.of_same (.refl _) rfl (fun _ _ _ => leads_set_of_eq hcaller rfl rfl) ?_
    intro other flight hmem
    rcases mem_of_mem_set hmem with hmem | heq
    · exact .inl hmem
    · cases heq
  | evict key => exact h.evict key
  | advance milliseconds =>
    exact h.of_same (.refl _) rfl (fun _ _ _ => Iff.rfl) fun _ _ => .inl
  | accept hmodels hbatch hkeys =>
    exact h.of_same (.refl _) rfl (fun _ _ _ => Iff.rfl) fun _ _ => .inl
  | write hintake => exact h.of_same (.refl _) rfl (fun _ _ _ => Iff.rfl) fun _ _ => .inl
  | drop hintake =>
    exact (h.evict _).of_same (.refl _) rfl (fun _ _ _ => Iff.rfl) fun _ _ => .inl

/-- Every run keeps the books in order. -/
theorem Orderly.run {limits : Limits} {s t : Traffic} {events : List Event} (h : s.Orderly)
    (hrun : Run limits s events t) : t.Orderly := by
  induction hrun with
  | nil => exact h
  | snoc _ hstep ih => exact ih.step hstep

end ApiDrift.Traffic
