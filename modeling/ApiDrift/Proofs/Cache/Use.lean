import ApiDrift.Proofs.Cache.Views
import ApiDrift.Session
import Mathlib.Logic.Relation

/-!
# What happens to a cache

Whatever is done with a cache, it is a sequence of single operations: first lookups, boarding, the
start of a load, the end of a flight, dropping a key, and the passing of time. None of them changes
how many entries there is room for, nor for how long an entry stays fresh. A request for a key is
such a sequence also when other requests, dropped keys and time come in between the start and the
end of its load.
-/

namespace ApiDrift.Cache

/-- Two caches have room for as many entries, which stay fresh for as long. -/
structure SameSettings (cache cache' : Cache) : Prop where
  /-- There is room for as many entries. -/
  capacity : cache'.capacity = cache.capacity
  /-- Entries stay fresh for as long. -/
  ttl : cache'.ttl = cache.ttl

namespace SameSettings

/-- Every cache has its own settings. -/
theorem refl (cache : Cache) : SameSettings cache cache := ⟨rfl, rfl⟩

theorem trans {a b c : Cache} (hab : SameSettings a b) (hbc : SameSettings b c) :
    SameSettings a c :=
  ⟨hbc.capacity.trans hab.capacity, hbc.ttl.trans hab.ttl⟩

end SameSettings

section Settings

variable (cache : Cache) (now : Nat) (key : EndpointKey)

/-- A lookup leaves the settings alone. -/
theorem sameSettings_lookup : SameSettings cache (cache.lookup now key).2 := by
  unfold lookup
  split
  · exact .refl cache
  · dsimp only
    split <;> exact ⟨rfl, rfl⟩

/-- A first lookup finds what a lookup finds, and leaves the same entries. -/
theorem firstLookup_entries :
    (cache.firstLookup now key).1 = (cache.lookup now key).1 ∧
      (cache.firstLookup now key).2.entries = (cache.lookup now key).2.entries := by
  obtain ⟨counters, h⟩ := firstLookup_eq cache now key
  rw [h]
  exact ⟨rfl, rfl⟩

/-- A first lookup leaves the settings alone. -/
theorem sameSettings_firstLookup : SameSettings cache (cache.firstLookup now key).2 := by
  obtain ⟨counters, h⟩ := firstLookup_eq cache now key
  rw [h]
  exact (sameSettings_lookup cache now key).trans ⟨rfl, rfl⟩

/-- Boarding does to entries and settings what its lookup does. -/
theorem board_entries_and_settings :
    (cache.board now key).2.entries = (cache.lookup now key).2.entries ∧
      SameSettings cache (cache.board now key).2 := by
  have hsame := sameSettings_lookup cache now key
  unfold board
  split
  · next heq =>
    rw [heq] at hsame ⊢
    exact ⟨rfl, hsame.trans ⟨rfl, rfl⟩⟩
  · next heq =>
    rw [heq] at hsame ⊢
    dsimp only
    split <;> exact ⟨rfl, hsame.trans ⟨rfl, rfl⟩⟩

/-- A push leaves the settings alone. -/
theorem sameSettings_push (entry : CacheEntry) : SameSettings cache (cache.push entry) := by
  unfold push
  split
  · exact ⟨rfl, rfl⟩
  · split <;> exact ⟨rfl, rfl⟩

/-- Settling an outcome leaves the settings alone. -/
theorem sameSettings_settle (flight : FlightId) (outcome : LoadOutcome) :
    SameSettings cache (cache.settle now key flight outcome) := by
  unfold settle
  split
  · split
    · exact .refl cache
    · exact (⟨rfl, rfl⟩ : SameSettings cache (cache.sweep now)).trans (sameSettings_push ..)
  · exact ⟨rfl, rfl⟩

/-- The end of a flight does to the entries what settling its outcome does. -/
theorem finish_entries (flight : FlightId) (outcome : LoadOutcome) :
    (cache.finish now key flight outcome).entries =
      (cache.settle now key flight outcome).entries :=
  unregister_entries ..

/-- The end of a flight leaves the settings alone. -/
theorem sameSettings_finish (flight : FlightId) (outcome : LoadOutcome) :
    SameSettings cache (cache.finish now key flight outcome) := by
  refine (sameSettings_settle cache now key flight outcome).trans ?_
  rw [finish_eq]
  unfold unregister
  dsimp only
  split <;> exact ⟨rfl, rfl⟩

end Settings

/-- One operation on a cache at some time, with the cache and the time behind it. The end of a
flight may come for any name and with any outcome. -/
inductive Use : Cache × Nat → Cache × Nat → Prop where
  /-- A request looks a key up for the first time. -/
  | firstLookup {cache : Cache} {now : Nat} (key : EndpointKey) :
    Use (cache, now) ((cache.firstLookup now key).2, now)
  /-- A request boards. -/
  | board {cache : Cache} {now : Nat} (key : EndpointKey) :
    Use (cache, now) ((cache.board now key).2, now)
  /-- A leader starts its lookup in the store. -/
  | countLoad {cache : Cache} {now : Nat} : Use (cache, now) (cache.countLoad, now)
  /-- A flight ends. -/
  | finish {cache : Cache} {now : Nat} (key : EndpointKey) (flight : FlightId)
    (outcome : LoadOutcome) : Use (cache, now) (cache.finish now key flight outcome, now)
  /-- A key is dropped. -/
  | evict {cache : Cache} {now : Nat} (key : EndpointKey) : Use (cache, now) (cache.evict key, now)
  /-- Some milliseconds pass. -/
  | wait {cache : Cache} {now : Nat} (milliseconds : Nat) :
    Use (cache, now) (cache, now + milliseconds)

/-- Operations on a cache one after another, in any order. -/
abbrev Uses : Cache × Nat → Cache × Nat → Prop :=
  Relation.ReflTransGen Use

/-- No operation changes the settings of a cache. -/
theorem Use.sameSettings {before after : Cache × Nat} (h : Use before after) :
    SameSettings before.1 after.1 := by
  cases h with
  | firstLookup key => exact sameSettings_firstLookup ..
  | board key => exact (board_entries_and_settings ..).2
  | countLoad => exact ⟨rfl, rfl⟩
  | finish key flight outcome => exact sameSettings_finish ..
  | evict key => exact ⟨rfl, rfl⟩
  | wait milliseconds => exact .refl _

/-- Operations do not change the settings of a cache. -/
theorem Uses.sameSettings {before after : Cache × Nat} (h : Uses before after) :
    SameSettings before.1 after.1 := by
  induction h with
  | refl => exact .refl _
  | tail _ huse ih => exact ih.trans huse.sameSettings

end ApiDrift.Cache

namespace ApiDrift

open Cache (Use Uses)

/-- The cache of a system and the time. -/
def System.clocked (system : System) : Cache × Nat :=
  (system.cache, system.now)

namespace System

variable (system : System) (key : EndpointKey)

/-- An access is a first lookup, and boarding when that finds nothing. -/
theorem uses_access : Uses system.clocked (system.access key).2.clocked := by
  unfold access Cache.access clocked
  have hfirst : Use (system.cache, system.now) _ := .firstLookup key
  cases hlooked : system.cache.firstLookup system.now key with
  | mk answer looked =>
    rw [hlooked] at hfirst
    cases answer with
    | some model => exact .single hfirst
    | none => exact .tail (.single hfirst) (.board key)

/-- A flight that a request leads is a load and, maybe after further operations, its end. -/
theorem uses_lead {before between : System} {key : EndpointKey}
    (hbetween : Uses (before.load key).2.clocked between.clocked) (flight : FlightId)
    (outcome : LoadOutcome) :
    Uses before.clocked (between.finish key flight outcome).clocked :=
  (Relation.ReflTransGen.head .countLoad hbetween).tail (.finish key flight outcome)

/-- A request that is served at once is a sequence of operations on the cache. -/
theorem uses_get : Uses system.clocked (system.get key).2.clocked := by
  have haccess := system.uses_access key
  unfold get
  split
  · next heq => rwa [heq] at haccess
  · next heq => rwa [heq] at haccess
  · next flight after heq =>
    rw [heq] at haccess
    exact haccess.trans (uses_lead .refl flight _)

end System

/-- A caller that comes while a load is running is a sequence of operations on the cache. -/
theorem LoadRun.uses_join (run : LoadRun) (key : EndpointKey) :
    Uses run.system.clocked (run.join key).system.clocked := by
  have haccess := run.system.uses_access key
  unfold join
  split
  · next heq => rwa [heq] at haccess
  · next heq => rwa [heq] at haccess
  · next flight after heq =>
    rw [heq] at haccess
    exact haccess.trans (System.uses_lead .refl flight _)

/-- Steps that are sequences of operations on the cache are one when they follow one another. -/
theorem LoadRun.uses_foldl {α : Type} {step : LoadRun → α → LoadRun}
    (hstep : ∀ run item, Uses run.system.clocked (step run item).system.clocked) (run : LoadRun)
    (items : List α) : Uses run.system.clocked (items.foldl step run).system.clocked := by
  induction items generalizing run with
  | nil => exact .refl
  | cons item rest ih => exact (hstep run item).trans (ih (step run item))

/-- Whatever happens while a load is running is a sequence of operations on the cache. -/
theorem LoadRun.uses_act (run : LoadRun) (action : LoadAction) :
    Uses run.system.clocked (run.act action).system.clocked := by
  unfold act
  split
  · exact .refl
  · cases action with
    | evict key => exact .single (.evict key)
    | advance milliseconds => exact .single (.wait milliseconds)
    | save models => exact .refl
    | get key => exact run.system.uses_get key
    | join key count => exact uses_foldl uses_join run (List.replicate count key)
    | unwind => exact .refl

/-- A request during whose load other things happen is a sequence of operations on the cache. -/
theorem Session.uses_get (session : Session) (key : EndpointKey) :
    Uses session.system.clocked (session.get key).2.2.system.clocked := by
  have haccess := session.system.uses_access key
  unfold get
  split
  · next heq => rwa [heq] at haccess
  · next heq => rwa [heq] at haccess
  · next flight after heq =>
    rw [heq] at haccess
    have hbetween := LoadRun.uses_foldl LoadRun.uses_act ⟨(after.load key).2, [], [], false⟩
      session.armed
    exact haccess.trans (System.uses_lead hbetween flight _)

end ApiDrift
