import ApiDrift.Proofs.Traffic.Intakes
import ApiDrift.Proofs.Traffic.Views

/-!
# Coherence of the cache in traffic

A value that the cache holds for a key, or that a registered flight has read for it, is the current
one of the store, unless an intake has written the key and not dropped it yet. This holds however
the steps of callers and intakes interleave. Consequently a request that arrives behind the end of
an intake is answered with what the intake wrote or with something newer.
-/

namespace ApiDrift.Traffic

/-- A model is the current one of a key, or the key is pending. -/
def CurrentOrPending (s : Traffic) (key : EndpointKey) (model : CachedModel) : Prop :=
  model = s.store.find? key ∨ s.Pending key

/-- What the cache holds and what registered flights have read is current, or the key is
pending. -/
structure Coherent (s : Traffic) : Prop where
  /-- What the cache holds. -/
  held : ∀ {key model}, s.cache.Holds key model → s.CurrentOrPending key model
  /-- What registered flights have read. -/
  read : ∀ {key flight model}, s.Reads key flight model → s.cache.flight? key = some flight →
    s.CurrentOrPending key model

/-- Nothing is held or read before anything has happened. -/
theorem coherent_start (maxEntries ttl : Nat) (store : Store) :
    Coherent (start maxEntries ttl store) := by
  constructor
  · intro key model h
    exact absurd h (Cache.not_holds_new maxEntries ttl key model)
  · rintro key flight model ⟨i, hi⟩
    cases hi

variable {limits : Limits} {s t : Traffic} {event : Event} {events : List Event}
  {key : EndpointKey} {model : CachedModel}

/-- A step that drops a key leaves nothing of it in the cache, and no flight. -/
theorem dropped_of_step (hstep : Step limits s event t)
    (hevent : event = .evict key ∨ ∃ j, event = .drop j key) :
    (∀ model, ¬t.cache.Holds key model) ∧ t.cache.flight? key = none := by
  have hcache : t.cache = s.cache.evict key := by
    rcases hevent with rfl | ⟨j, rfl⟩ <;> cases hstep <;> rfl
  rw [hcache]
  constructor
  · intro model h
    exact ((Cache.holds_evict ..).mp h).1 rfl
  · rw [Cache.flight?_evict, if_pos rfl]

/-- What was current or pending is so behind a step, unless the step drops the key. -/
theorem CurrentOrPending.step (h : s.CurrentOrPending key model) (hsound : s.SoundIntakes)
    (hstep : Step limits s event t) (hdrop : ∀ j, event ≠ .drop j key) :
    t.CurrentOrPending key model := by
  rcases h with h | h
  · rcases find?_of_step hstep key with hsame | ⟨j, new, rfl⟩
    · exact .inl (h.trans hsame.symm)
    · exact .inr (pending_of_write hsound hstep)
  · exact .inr (h.step hstep hdrop)

/-- Every step keeps the cache coherent. -/
theorem Coherent.step (h : s.Coherent) (horderly : s.Orderly) (hsound : s.SoundIntakes)
    (hstep : Step limits s event t) : t.Coherent := by
  constructor
  · intro key model hheld
    have hbefore : s.CurrentOrPending key model := by
      rcases holds_of_step horderly hheld hstep with hheld | ⟨flight, hread, hflight⟩
      · exact h.held hheld
      · exact h.read hread hflight
    refine hbefore.step hsound hstep ?_
    rintro j rfl
    exact (dropped_of_step hstep (.inr ⟨j, rfl⟩)).1 model hheld
  · intro key flight model hread hflight
    have hbefore : s.CurrentOrPending key model := by
      rcases hread.of_step hstep with hread' | hcurrent
      · refine h.read hread' ?_
        rcases flight?_of_step hflight hstep with hflight | rfl
        · exact hflight
        · obtain ⟨i, hi⟩ := hread'.leads
          exact absurd (horderly.named hi) (Nat.lt_irrefl _)
      · exact .inl hcurrent
    refine hbefore.step hsound hstep ?_
    rintro j rfl
    rw [(dropped_of_step hstep (.inr ⟨j, rfl⟩)).2] at hflight
    cases hflight

/-- All that is known of every state that a run reaches. -/
theorem Run.orderly_sound_coherent {maxEntries ttl : Nat} {store : Store}
    (hrun : Run limits (start maxEntries ttl store) events t) :
    t.Orderly ∧ t.SoundIntakes ∧ t.Coherent := by
  induction hrun with
  | nil =>
    refine ⟨orderly_start .., ?_, coherent_start ..⟩
    intro j intake hj
    cases hj
  | snoc _ hstep ih =>
    obtain ⟨horderly, hsound, hcoherent⟩ := ih
    exact ⟨horderly.step hstep, hsound.step hstep, hcoherent.step horderly hsound hstep⟩

end ApiDrift.Traffic
