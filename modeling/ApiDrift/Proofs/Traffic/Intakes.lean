import ApiDrift.Proofs.Traffic

/-!
# Intakes in traffic

An intake writes each key of its batch once, with the first model of the key, and drops the key
some time after that. Between the two the key is pending: the store has changed and the cache may
not have heard of it.
-/

namespace ApiDrift

/-- The keys of a batch are written once each and dropped after that. -/
structure Intake.Sound (intake : Intake) : Prop where
  /-- No key is written twice. -/
  distinct : (intake.unwritten.map Prod.fst).Nodup
  /-- What is to be written is to be dropped. -/
  undropped : ∀ key ∈ intake.unwritten.map Prod.fst, key ∈ intake.undropped

namespace Traffic

/-- All intakes are sound. -/
def SoundIntakes (s : Traffic) : Prop :=
  ∀ (j : Nat) (intake : Intake), s.intakes[j]? = some intake → intake.Sound

/-- Every step keeps intakes sound. -/
theorem SoundIntakes.step {limits : Limits} {s t : Traffic} {event : Event}
    (h : s.SoundIntakes) (hstep : Step limits s event t) : t.SoundIntakes := by
  intro j intake hj
  cases hstep with
  | arrive | board | load | finish | wake | evict | advance => exact h j intake hj
  | @accept models batch keys hmodels hbatch hkeys =>
    rcases getElem?_of_append hj with hj | ⟨-, rfl⟩
    · exact h j intake hj
    · constructor
      · exact (hbatch.map Prod.fst).nodup_iff.mpr (nodup_firstOfEachKey models)
      · intro key hkey
        exact hkeys.mem_iff.mpr hkey
  | write hintake =>
    have hold := h _ _ hintake
    rcases getElem?_of_set hj with hj | ⟨-, rfl⟩
    · exact h j intake hj
    · exact ⟨(List.nodup_cons.mp hold.distinct).2, fun key hkey =>
        hold.undropped key (List.mem_cons_of_mem _ hkey)⟩
  | drop hintake =>
    rcases getElem?_of_set hj with hj | ⟨-, rfl⟩
    · exact h j intake hj
    · exact ⟨.nil, fun key hkey => by cases hkey⟩

/-- Every run keeps intakes sound. -/
theorem SoundIntakes.run {limits : Limits} {s t : Traffic} {events : List Event}
    (h : s.SoundIntakes) (hrun : Run limits s events t) : t.SoundIntakes := by
  induction hrun with
  | nil => exact h
  | snoc _ hstep ih => exact ih.step hstep

/-- An intake has written a key and has not dropped it yet. -/
def Pending (s : Traffic) (key : EndpointKey) : Prop :=
  ∃ (j : Nat) (intake : Intake), s.intakes[j]? = some intake ∧
    key ∈ intake.undropped ∧ key ∉ intake.unwritten.map Prod.fst

/-- A key stays pending as long as no intake drops it. -/
theorem Pending.step {limits : Limits} {s t : Traffic} {event : Event} {key : EndpointKey}
    (h : s.Pending key) (hstep : Step limits s event t) (hdrop : ∀ j, event ≠ .drop j key) :
    t.Pending key := by
  obtain ⟨j, intake, hj, hundropped, hwritten⟩ := h
  cases hstep with
  | arrive | board | load | finish | wake | evict | advance =>
    exact ⟨j, intake, hj, hundropped, hwritten⟩
  | accept =>
    refine ⟨j, intake, ?_, hundropped, hwritten⟩
    exact (List.getElem?_append_left (List.getElem?_eq_some_iff.mp hj).1).trans hj
  | @write i models written model rest keys hintake =>
    by_cases hij : i = j
    · subst hij
      rw [hintake] at hj
      cases hj
      refine ⟨i, ⟨models, rest, keys⟩, ?_, hundropped, fun hkey =>
        hwritten (List.mem_cons_of_mem _ hkey)⟩
      exact List.getElem?_set_self (List.getElem?_eq_some_iff.mp hintake).1
    · refine ⟨j, intake, ?_, hundropped, hwritten⟩
      exact (List.getElem?_set_ne hij).trans hj
  | @drop i models dropped rest hintake =>
    by_cases hij : i = j
    · subst hij
      rw [hintake] at hj
      cases hj
      refine ⟨i, ⟨models, [], rest⟩, ?_, ?_, hwritten⟩
      · exact List.getElem?_set_self (List.getElem?_eq_some_iff.mp hintake).1
      · rcases List.mem_cons.mp hundropped with rfl | hkey
        · exact absurd rfl (hdrop i)
        · exact hkey
    · refine ⟨j, intake, ?_, hundropped, hwritten⟩
      exact (List.getElem?_set_ne hij).trans hj

/-- A key that was just written is pending. -/
theorem pending_of_write {limits : Limits} {s t : Traffic} {i : Nat} {key : EndpointKey}
    {model : Model} (hsound : s.SoundIntakes) (hstep : Step limits s (.write i key model) t) :
    t.Pending key := by
  cases hstep with
  | @write _ models _ _ rest keys hintake =>
    have hold := hsound _ _ hintake
    refine ⟨i, ⟨models, rest, keys⟩, ?_, ?_, ?_⟩
    · exact List.getElem?_set_self (List.getElem?_eq_some_iff.mp hintake).1
    · exact hold.undropped key List.mem_cons_self
    · exact (List.nodup_cons.mp hold.distinct).1

/-- In a run an intake has written a model under a key and dropped the key after that. -/
def Dropped (limits : Limits) (s : Traffic) (events : List Event) (t : Traffic) (j : Nat)
    (key : EndpointKey) (model : Model) : Prop :=
  ∃ (before after : List Event) (u u' : Traffic),
    events = before ++ .drop j key :: after ∧ .write j key model ∈ before ∧
      Run limits s before u ∧ Step limits u (.drop j key) u' ∧ Run limits u' after t

/-- What was dropped in a run was dropped in a longer one. -/
theorem Dropped.snoc {limits : Limits} {s t u : Traffic} {events : List Event} {event : Event}
    {j : Nat} {key : EndpointKey} {model : Model} (h : Dropped limits s events t j key model)
    (hstep : Step limits t event u) : Dropped limits s (events ++ [event]) u j key model := by
  obtain ⟨before, after, v, v', rfl, hwrite, hbefore, hdrop, hafter⟩ := h
  exact ⟨before, after ++ [event], v, v', by simp, hwrite, hbefore, hdrop, hafter.snoc hstep⟩

/-- The first model of each key of every batch was written in a run or is still to be written, and
its key was dropped after that or is still to be dropped. -/
def Accounted (limits : Limits) (s : Traffic) (events : List Event) (t : Traffic) : Prop :=
  ∀ (j : Nat) (intake : Intake) (key : EndpointKey) (model : Model),
    t.intakes[j]? = some intake → intake.models.find? (fun m => m.key == key) = some model →
      ((key, model) ∈ intake.unwritten ∨ .write j key model ∈ events) ∧
        (key ∈ intake.undropped ∨ Dropped limits s events t j key model)

/-- One more step keeps account of every intake. -/
theorem Accounted.snoc {limits : Limits} {s t u : Traffic} {events : List Event} {event : Event}
    (h : Accounted limits s events t) (hrun : Run limits s events t)
    (hstep : Step limits t event u) : Accounted limits s (events ++ [event]) u := by
  intro j intake key model hj hmodel
  have hold : ∀ old : Intake, t.intakes[j]? = some old → old.models = intake.models →
      ((key, model) ∈ old.unwritten ∨ .write j key model ∈ events ++ [event]) ∧
        (key ∈ old.undropped ∨ Dropped limits s (events ++ [event]) u j key model) := by
    intro old hj hmodels
    obtain ⟨hwrite, hdrop⟩ := h j old key model hj (hmodels ▸ hmodel)
    exact ⟨hwrite.imp_right (List.mem_append_left _), hdrop.imp_right fun hd => hd.snoc hstep⟩
  cases hstep with
  | arrive | board | load | finish | wake | evict | advance => exact hold intake hj rfl
  | @accept models batch keys hmodels hbatch hkeys =>
    rcases getElem?_of_append hj with hj | ⟨-, rfl⟩
    · exact hold intake hj rfl
    · have hmem : (key, model) ∈ batch :=
        hbatch.mem_iff.mpr (mem_firstOfEachKey.mpr hmodel)
      exact ⟨.inl hmem, .inl (hkeys.mem_iff.mpr (List.mem_map_of_mem hmem))⟩
  | @write i models written first rest keys hintake =>
    rcases getElem?_of_set hj with hj | ⟨rfl, rfl⟩
    · exact hold intake hj rfl
    · obtain ⟨hwrite, hdrop⟩ := hold _ hintake rfl
      refine ⟨?_, hdrop⟩
      rcases hwrite with hwrite | hwrite
      · rcases List.mem_cons.mp hwrite with heq | hwrite
        · cases heq
          exact .inr (List.mem_append_right _ List.mem_cons_self)
        · exact .inl hwrite
      · exact .inr hwrite
  | @drop i models dropped rest hintake =>
    rcases getElem?_of_set hj with hj | ⟨rfl, rfl⟩
    · exact hold intake hj rfl
    · obtain ⟨hwrite, hdrop⟩ := hold _ hintake rfl
      refine ⟨hwrite, ?_⟩
      rcases hdrop with hdrop | hdrop
      · rcases List.mem_cons.mp hdrop with rfl | hdrop
        · have hbefore := (h j _ key model hintake hmodel).1.resolve_left List.not_mem_nil
          exact .inr ⟨events, [], t, _, rfl, hbefore, hrun, .drop hintake, .nil⟩
        · exact .inl hdrop
      · exact .inr hdrop

/-- Every run from the start keeps account of every intake. -/
theorem Run.accounted {limits : Limits} {maxEntries ttl : Nat} {store : Store} {t : Traffic}
    {events : List Event} (hrun : Run limits (start maxEntries ttl store) events t) :
    Accounted limits (start maxEntries ttl store) events t := by
  induction hrun with
  | nil =>
    intro j intake key model hj
    cases hj
  | snoc hrun hstep ih => exact ih.snoc hrun hstep

end Traffic

end ApiDrift
