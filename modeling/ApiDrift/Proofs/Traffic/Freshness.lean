import ApiDrift.Proofs.Traffic.Coherence

/-!
# How old answers are

From the moment when a key is dropped, everything that is handed out to later callers for that key
was read from the store after that moment. The end of an intake lies behind the moments when it
dropped its keys, which lie behind its writes, so a request that arrives behind the end of an intake
is never answered with anything older than what the intake wrote.
-/

namespace ApiDrift.Traffic

variable {limits : Limits} {s t : Traffic} {event : Event} {events : List Event}
  {key : EndpointKey}

/-- For one key, everything in the traffic that was read by flights from `flight` on, and everything
that reaches callers from `caller` on, is `seen`. -/
structure Recent (key : EndpointKey) (seen : CachedModel → Prop) (flight : FlightId)
    (caller : Nat) (s : Traffic) : Prop where
  /-- The cache holds what was seen. -/
  held : ∀ {model}, s.cache.Holds key model → seen model
  /-- The registered flight is a late one. -/
  registered : ∀ {f}, s.cache.flight? key = some f → flight ≤ f
  /-- All further flights are late ones. -/
  next : flight ≤ s.cache.nextFlight
  /-- Late callers lead late flights. -/
  leads : ∀ {i f}, caller ≤ i → Leads s.callers i key f → flight ≤ f
  /-- Late callers wait for late flights. -/
  waits : ∀ {i f}, caller ≤ i → s.callers[i]? = some ⟨key, .waits f⟩ → flight ≤ f
  /-- Late flights read what was seen. -/
  reads : ∀ {f model}, flight ≤ f → s.Reads key f model → seen model
  /-- Late callers wait for what was seen. -/
  results : ∀ {i f model}, caller ≤ i → s.callers[i]? = some ⟨key, .waits f⟩ →
    s.results.lookup f = some (.ok model) → seen model
  /-- Late callers are answered with what was seen. -/
  answers : ∀ {i model}, caller ≤ i → s.callers[i]? = some ⟨key, .answered (.found model)⟩ →
    seen model

/-- Behind the step that drops a key, nothing late has happened yet. -/
theorem recent_of_dropped {seen : CachedModel → Prop} (horderly : t.Orderly)
    (hheld : ∀ model, ¬t.cache.Holds key model) (hflight : t.cache.flight? key = none) :
    Recent key seen t.cache.nextFlight t.callers.length t := by
  have hlate : ∀ {i : Nat} {caller : Caller}, t.callers.length ≤ i →
      t.callers[i]? ≠ some caller := by
    intro i caller hi hsome
    rw [List.getElem?_eq_none hi] at hsome
    cases hsome
  constructor
  case held =>
    intro model h
    exact absurd h (hheld model)
  case registered =>
    intro f h
    rw [hflight] at h
    cases h
  case next =>
    exact Nat.le_refl _
  case leads =>
    rintro i f hi ⟨caller, hcaller, -⟩
    exact absurd hcaller (hlate hi)
  case waits =>
    intro i f hi hcaller
    exact absurd hcaller (hlate hi)
  case reads =>
    intro f model hf hread
    obtain ⟨i, hi⟩ := hread.leads
    exact absurd (horderly.named hi) (Nat.not_lt.mpr hf)
  case results =>
    intro i f model hi hcaller
    exact absurd hcaller (hlate hi)
  case answers =>
    intro i model hi hcaller
    exact absurd hcaller (hlate hi)

/-- A step hands out to late callers only what was seen before or is current now: the flight that
such a caller waits for had its result before, or its leader, who requests the same key, has read
the model. -/
theorem Recent.step {seen seen' : CachedModel → Prop} {flight : FlightId} {caller : Nat}
    (h : Recent key seen flight caller s) (horderly : s.Orderly)
    (hmono : ∀ model, seen model → seen' model) (hcurrent : seen' (s.store.find? key))
    (hstep : Step limits s event t) : Recent key seen' flight caller t := by
  constructor
  case held =>
    intro model hheld
    rcases holds_of_step horderly hheld hstep with hheld | ⟨f, hread, hf⟩
    · exact hmono _ (h.held hheld)
    · exact hmono _ (h.reads (h.registered hf) hread)
  case registered =>
    intro f hf
    rcases flight?_of_step hf hstep with hf | rfl
    · exact h.registered hf
    · exact h.next
  case next =>
    exact Nat.le_trans h.next (nextFlight_le_of_step hstep)
  case leads =>
    intro i f hi hleads
    rcases leads_of_step hleads hstep with hleads | ⟨-, rfl⟩
    · exact h.leads hi hleads
    · exact h.next
  case waits =>
    intro i f hi hwaits
    rcases waits_of_step hwaits hstep with hwaits | hf
    · exact h.waits hi hwaits
    · exact h.registered hf
  case reads =>
    intro f model hf hread
    rcases hread.of_step hstep with hread | rfl
    · exact hmono _ (h.reads hf hread)
    · exact hcurrent
  case results =>
    intro i f model hi hwaits hresult
    rcases waits_of_step hwaits hstep with hwaits | hf <;>
      rcases result_of_step hresult hstep with hresult | ⟨other, hread⟩
    · exact hmono _ (h.results hi hwaits hresult)
    · obtain ⟨j, hj⟩ := hread.leads
      rcases horderly.awaited (List.mem_of_getElem? hwaits) with hended | ⟨j', hj'⟩
      · exact absurd (horderly.running hj) hended
      · obtain rfl : other = key := horderly.key_unique hj hj'
        exact hmono _ (h.reads (h.waits hi hwaits) hread)
    · obtain ⟨j, hj⟩ := horderly.led hf
      rw [horderly.running hj] at hresult
      cases hresult
    · obtain ⟨j, hj⟩ := hread.leads
      obtain ⟨j', hj'⟩ := horderly.led hf
      obtain rfl : other = key := horderly.key_unique hj hj'
      exact hmono _ (h.reads (h.registered hf) hread)
  case answers =>
    intro i model hi hanswer
    rcases answer_of_step hanswer hstep with hanswer | hheld | ⟨f, hread⟩ | ⟨f, hwaits, hresult⟩
    · exact hmono _ (h.answers hi hanswer)
    · exact hmono _ (h.held hheld)
    · exact hmono _ (h.reads (h.leads hi ⟨_, hread, rfl, rfl⟩) ⟨i, hread⟩)
    · exact hmono _ (h.results hi hwaits hresult)

/-- What is handed out to late callers in a run was current at some time of the run. -/
theorem Recent.run (h : Recent key (WasCurrent s.store [] key) s.cache.nextFlight s.callers.length s)
    (horderly : s.Orderly) (hrun : Run limits s events t) :
    Recent key (WasCurrent s.store events key) s.cache.nextFlight s.callers.length t := by
  induction hrun with
  | nil => exact h
  | @snoc events t u event hrun hstep ih =>
    have hlonger : events <+: events ++ [event] := List.prefix_append _ _
    exact ih.step (horderly.run hrun) (fun model hseen => hseen.mono hlonger)
      ((hrun.wasCurrent key).mono hlonger) hstep

/-- In every state that a run reaches, what the cache holds of a key and what a registered flight
has read for it is what the store has, unless an intake has written the key and not dropped it yet.
A request that arrived behind the end of an intake is answered with the model that the store had of
the key at some time behind the write of the intake. -/
theorem Run.coherent_and_fresh {maxEntries ttl : Nat} {store : Store} {before after : List Event}
    {mid t : Traffic} (hbefore : Run limits (start maxEntries ttl store) before mid)
    (hafter : Run limits mid after t) :
    t.Coherent ∧
      ∀ (j i : Nat) (intake : Intake) (key : EndpointKey) (model : Model) (found : CachedModel),
        mid.intakes[j]? = some intake → intake.IsDone →
          intake.models.find? (fun m => m.key == key) = some model →
            mid.callers.length ≤ i → t.callers[i]? = some ⟨key, .answered (.found found)⟩ →
              ∃ past, past <+: before ++ after ∧ .write j key model ∈ past ∧
                found = (store.putAll (written past)).find? key := by
  refine ⟨(hbefore.trans hafter).orderly_sound_coherent.2.2, ?_⟩
  intro j i intake key model found hintake hdone hmodel hi hanswer
  obtain ⟨-, hdropped⟩ := hbefore.accounted j intake key model hintake hmodel
  rw [hdone.2] at hdropped
  obtain ⟨first, rest, u, u', rfl, hwrite, hfirst, hdrop, hrest⟩ :=
    hdropped.resolve_left List.not_mem_nil
  have hfirst' : Run limits (start maxEntries ttl store) (first ++ [.drop j key]) u' :=
    hfirst.snoc hdrop
  have horderly := hfirst'.orderly_sound_coherent.1
  obtain ⟨hheld, hflight⟩ := dropped_of_step hdrop (.inr ⟨j, rfl⟩)
  have hrecent := (recent_of_dropped horderly hheld hflight).run horderly (hrest.trans hafter)
  have hlate : u'.callers.length ≤ i := Nat.le_trans hrest.callers_length_le hi
  obtain ⟨past, hpast, hfound⟩ := hrecent.answers hlate hanswer
  refine ⟨first ++ [.drop j key] ++ past, ?_, ?_, ?_⟩
  · have hevents : first ++ .drop j key :: rest ++ after =
        first ++ [.drop j key] ++ (rest ++ after) := by simp
    rw [hevents]
    exact (List.prefix_append_right_inj _).mpr hpast
  · exact List.mem_append_left _ (List.mem_append_left _ hwrite)
  · rw [hfound, hfirst'.store_eq, written_append _ past, Store.putAll_append]
    rfl

/-- A model whose method is neither trimmed nor in capital form. -/
def paddedModel : Model := ⟨"/orders", " get", [⟨"id", ["Int"], true⟩], [], []⟩

/-- A leader looks into the store, and a batch is taken in before its flight ends. -/
def overtaking : List Event :=
  [.arrive paddedModel.key, .board 0, .load 0 (.found none), .accept [paddedModel],
    .write 0 paddedModel.key paddedModel, .drop 0 paddedModel.key]

/-- The overtaken flight ends while a later one of the same key is running. -/
def overtaken : List Event :=
  [.arrive paddedModel.key, .board 1, .finish 0, .load 1 (.found (some paddedModel)), .finish 1]

/-- The result of an overtaken flight reaches neither the cache nor a later request. -/
theorem coherent_overtaken :
    ∃ mid t : Traffic,
      (start 1 1 .empty).run? {} overtaking = some mid ∧ mid.run? {} overtaken = some t ∧
        t.Coherent ∧ mid.intakes[0]? = some ⟨[paddedModel], [], []⟩ ∧
          t.callers[1]? = some ⟨paddedModel.key, .answered (.found (some paddedModel))⟩ ∧
            ∃ past, past <+: overtaking ++ overtaken ∧
              .write 0 paddedModel.key paddedModel ∈ past ∧
                some paddedModel = (Store.empty.putAll (written past)).find? paddedModel.key := by
  obtain ⟨mid, hmid⟩ := Option.isSome_iff_exists.mp
    (by decide +kernel : ((start 1 1 .empty).run? {} overtaking).isSome)
  have hintake : ((start 1 1 .empty).run? {} overtaking).bind (·.intakes[0]?) =
      some ⟨[paddedModel], [], []⟩ := by decide +kernel
  have hcallers : ((start 1 1 .empty).run? {} overtaking).map (·.callers.length) = some 1 := by
    decide +kernel
  have hrun : (((start 1 1 .empty).run? {} overtaking).bind (·.run? {} overtaken)).isSome := by
    decide +kernel
  have hanswer : (((start 1 1 .empty).run? {} overtaking).bind (·.run? {} overtaken)).bind
      (·.callers[1]?) = some ⟨paddedModel.key, .answered (.found (some paddedModel))⟩ := by
    decide +kernel
  rw [hmid, Option.bind_some] at hintake hrun hanswer
  rw [hmid, Option.map_some, Option.some.injEq] at hcallers
  obtain ⟨t, ht⟩ := Option.isSome_iff_exists.mp hrun
  rw [ht, Option.bind_some] at hanswer
  obtain ⟨hcoherent, hfresh⟩ := Run.coherent_and_fresh (run_of_run? hmid) (run_of_run? ht)
  exact ⟨mid, t, hmid, ht, hcoherent, hintake, hanswer,
    hfresh 0 1 _ paddedModel.key paddedModel _ hintake ⟨rfl, rfl⟩ (by decide +kernel)
      (Nat.le_of_eq hcallers) hanswer⟩

end ApiDrift.Traffic
