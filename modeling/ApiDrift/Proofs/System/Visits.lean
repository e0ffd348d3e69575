import ApiDrift.Proofs.Cache.Fresh
import ApiDrift.Proofs.Cache.Tally
import ApiDrift.Proofs.System.History
import Mathlib.Data.Finset.Card

/-!
# Which requests are hits

Keys are requested one after another, and time passes in between. A cache that had room for all
keys, and in which nothing expired, would have one entry for each requested key, in the order of
the last requests. Of these entries those are fresh in the cache that were requested lately enough,
as many as there is room for. So whether a request is a hit depends on nothing but the time since
the last request for the same key and the number of other keys that were requested since then.
-/

namespace ApiDrift

/-- What happens while keys are requested one after another. -/
inductive Visit where
  /-- A request for a key is served. -/
  | get (key : EndpointKey)
  /-- So many milliseconds pass. -/
  | wait (milliseconds : Nat)
  deriving DecidableEq

/-- How many milliseconds pass in a visit. -/
def Visit.duration : Visit → Nat
  | .get _ => 0
  | .wait milliseconds => milliseconds

/-- The key that a visit requests. -/
def Visit.key? : Visit → Option EndpointKey
  | .get key => some key
  | .wait _ => none

/-- How many milliseconds pass in visits. -/
def timeOf : List Visit → Nat
  | [] => 0
  | visit :: rest => visit.duration + timeOf rest

/-- The keys that visits request, in order and as often as they are requested. -/
def keysOf (visits : List Visit) : List EndpointKey :=
  visits.filterMap Visit.key?

/-- A key was requested, the last time less than `ttl` ago, and since then fewer than `capacity`
other keys were requested. -/
def UsedLately (capacity ttl : Nat) (key : EndpointKey) (visits : List Visit) : Prop :=
  ∃ before since, visits = before ++ .get key :: since ∧ .get key ∉ since ∧
    timeOf since < ttl ∧ (keysOf since).toFinset.card < capacity

theorem timeOf_append (first second : List Visit) :
    timeOf (first ++ second) = timeOf first + timeOf second := by
  induction first with
  | nil => simp [timeOf]
  | cons visit rest ih => rw [List.cons_append, timeOf, timeOf, ih, Nat.add_assoc]

theorem keysOf_append (first second : List Visit) :
    keysOf (first ++ second) = keysOf first ++ keysOf second :=
  List.filterMap_append

theorem mem_keysOf {key : EndpointKey} {visits : List Visit} :
    key ∈ keysOf visits ↔ .get key ∈ visits := by
  unfold keysOf
  rw [List.mem_filterMap]
  constructor
  · rintro ⟨visit, hvisit, hkey⟩
    cases visit with
    | get other =>
      cases hkey
      exact hvisit
    | wait milliseconds => cases hkey
  · exact fun h => ⟨.get key, h, rfl⟩

/-- A list that has an item can be split behind its last one. -/
theorem exists_append_cons_of_mem {α : Type} {item : α} {items : List α} (h : item ∈ items) :
    ∃ before after, items = before ++ item :: after ∧ item ∉ after := by
  induction items with
  | nil => cases h
  | cons first rest ih =>
    by_cases hrest : item ∈ rest
    · obtain ⟨before, after, rfl, hafter⟩ := ih hrest
      exact ⟨first :: before, after, rfl, hafter⟩
    · obtain rfl := (List.mem_cons.mp h).resolve_right hrest
      exact ⟨[], rest, rfl, hrest⟩

section Remembered

variable (store : Store)

/-- One more visit in a cache with room for all keys in which nothing expires, with the time. -/
def remember (memory : List CacheEntry × Nat) : Visit → List CacheEntry × Nat
  | .get key =>
    (⟨key, store.find? key, memory.2⟩ :: Cache.without key memory.1, memory.2)
  | .wait milliseconds => (memory.1, memory.2 + milliseconds)

/-- The entries that visits leave in a cache with room for all keys in which nothing expires, with
the time. -/
def remembered (visits : List Visit) : List CacheEntry × Nat :=
  visits.foldl (remember store) ([], 0)

theorem remembered_concat (visits : List Visit) (visit : Visit) :
    remembered store (visits ++ [visit]) = remember store (remembered store visits) visit :=
  List.foldl_concat ..

/-- The time is what has passed. -/
theorem remembered_snd (visits : List Visit) : (remembered store visits).2 = timeOf visits := by
  induction visits using List.reverseRecOn with
  | nil => rfl
  | append_singleton visits visit ih =>
    rw [remembered_concat, timeOf_append, ← ih]
    cases visit <;> rfl

/-- Entries of requests, one for each key, the last request first. -/
structure Remembers (memory : List CacheEntry × Nat) : Prop where
  /-- No key has two entries. -/
  distinct : (memory.1.map CacheEntry.key).Nodup
  /-- The entries stand in the order of the last requests. -/
  ordered : memory.1.Pairwise fun a b => b.lastAccess ≤ a.lastAccess
  /-- No request comes later than now. -/
  past : ∀ entry ∈ memory.1, entry.lastAccess ≤ memory.2
  /-- Each entry has what the store has of its key. -/
  faithful : ∀ entry ∈ memory.1, entry.model = store.find? entry.key

/-- The entries of visits are entries of requests. -/
theorem remembers_remembered (visits : List Visit) :
    Remembers store (remembered store visits) := by
  induction visits using List.reverseRecOn with
  | nil => exact ⟨.nil, .nil, by simp [remembered], by simp [remembered]⟩
  | append_singleton visits visit ih =>
    rw [remembered_concat]
    cases visit with
    | get key =>
      have hsub := Cache.without_sublist key (remembered store visits).1
      constructor
      case distinct =>
        refine List.nodup_cons.mpr ⟨fun hmem => ?_, ih.distinct.sublist (hsub.map _)⟩
        obtain ⟨entry, hentry, hkey⟩ := List.mem_map.mp hmem
        exact (Cache.mem_without.mp hentry).2 hkey
      case ordered =>
        exact List.pairwise_cons.mpr
          ⟨fun entry hentry => ih.past entry (hsub.subset hentry), ih.ordered.sublist hsub⟩
      case past =>
        exact List.forall_mem_cons.mpr
          ⟨Nat.le_refl _, fun entry hentry => ih.past entry (hsub.subset hentry)⟩
      case faithful =>
        exact List.forall_mem_cons.mpr
          ⟨rfl, fun entry hentry => ih.faithful entry (hsub.subset hentry)⟩
    | wait milliseconds =>
      exact ⟨ih.distinct, ih.ordered,
        fun entry hentry => Nat.le_trans (ih.past entry hentry) (Nat.le_add_right _ _),
        ih.faithful⟩

/-- One more request puts its entry in front of the first of the others that satisfy a condition. -/
theorem Remembers.take_filter_get {memory : List CacheEntry × Nat} (h : Remembers store memory)
    {p : CacheEntry → Bool} {key : EndpointKey} (hp : p ⟨key, store.find? key, memory.2⟩ = true)
    {n : Nat} (hn : 0 < n) :
    ((remember store memory (.get key)).1.filter p).take n =
      ⟨key, store.find? key, memory.2⟩ ::
        (Cache.without key ((memory.1.filter p).take n)).take (n - 1) := by
  have hdistinct : ((memory.1.filter p).map CacheEntry.key).Nodup :=
    h.distinct.sublist (List.filter_sublist.map CacheEntry.key)
  have hswap : (Cache.without key memory.1).filter p = Cache.without key (memory.1.filter p) :=
    List.filter_comm ..
  obtain ⟨n, rfl⟩ := Nat.exists_eq_add_one.mpr hn
  rw [remember, List.filter_cons_of_pos hp, List.take_succ_cons, hswap,
    Cache.take_without_take hdistinct]
  rfl

/-- Every key with an entry was requested. -/
theorem mem_of_mem_remembered {visits : List Visit} {entry : CacheEntry}
    (h : entry ∈ (remembered store visits).1) : .get entry.key ∈ visits := by
  induction visits using List.reverseRecOn with
  | nil => cases h
  | append_singleton visits visit ih =>
    rw [remembered_concat] at h
    rw [List.mem_append, List.mem_singleton]
    cases visit with
    | get key =>
      rcases List.mem_cons.mp h with rfl | h
      · exact .inr rfl
      · exact .inl (ih (Cache.mem_without.mp h).1)
    | wait milliseconds => exact .inl (ih h)

/-- In front of the entry of a key stand the entries of the keys that were requested since its last
request. -/
theorem exists_remembered_append (before : List Visit) {key : EndpointKey} {since : List Visit}
    (h : .get key ∉ since) :
    ∃ recent older,
      (remembered store (before ++ .get key :: since)).1 =
        recent ++ ⟨key, store.find? key, timeOf before⟩ :: older ∧
      ∀ other, other ∈ recent.map CacheEntry.key ↔ other ∈ keysOf since := by
  induction since using List.reverseRecOn with
  | nil =>
    refine ⟨[], Cache.without key (remembered store before).1, ?_, by simp [keysOf]⟩
    rw [remembered_concat, ← remembered_snd store before]
    rfl
  | append_singleton since visit ih =>
    rw [List.mem_append, List.mem_singleton, not_or] at h
    obtain ⟨recent, older, hentries, hrecent⟩ := ih h.1
    have hsplit : before ++ .get key :: (since ++ [visit]) =
        before ++ .get key :: since ++ [visit] := by simp
    rw [hsplit, remembered_concat]
    cases visit with
    | get other =>
      have hne : key ≠ other := fun heq => h.2 (heq ▸ rfl)
      refine ⟨⟨other, store.find? other, timeOf (before ++ .get key :: since)⟩ ::
        Cache.without other recent, Cache.without other older, ?_, fun name => ?_⟩
      · have hkept : (key != other) = true := by simpa using hne
        simp only [remember, hentries, remembered_snd, Cache.without, List.filter_append,
          List.cons_append, List.filter_cons, hkept, if_true]
      · rw [keysOf_append, List.mem_append, ← hrecent name, List.map_cons, List.mem_cons]
        simp only [List.mem_map, Cache.mem_without, keysOf, List.filterMap_cons, Visit.key?,
          List.filterMap_nil, List.mem_singleton]
        constructor
        · rintro (rfl | ⟨entry, ⟨hentry, -⟩, hkey⟩)
          · exact .inr rfl
          · exact .inl ⟨entry, hentry, hkey⟩
        · rintro (⟨entry, hentry, rfl⟩ | rfl)
          · by_cases hsame : entry.key = other
            · exact .inl hsame
            · exact .inr ⟨entry, ⟨hentry, hsame⟩, rfl⟩
          · exact .inl rfl
    | wait milliseconds =>
      refine ⟨recent, older, hentries, fun name => ?_⟩
      rw [keysOf_append, List.mem_append, hrecent name]
      simp [keysOf, Visit.key?]

/-- There are as many entries in front of the entry of a key as keys were requested since its last
request. -/
theorem length_of_remembered_append {visits since : List Visit} {recent older : List CacheEntry}
    {last : CacheEntry} (hentries : (remembered store visits).1 = recent ++ last :: older)
    (hrecent : ∀ other, other ∈ recent.map CacheEntry.key ↔ other ∈ keysOf since) :
    recent.length = (keysOf since).toFinset.card := by
  have hdistinct := (remembers_remembered store visits).distinct
  rw [hentries, List.map_append] at hdistinct
  have hkeys : (recent.map CacheEntry.key).toFinset = (keysOf since).toFinset := by
    ext other
    rw [List.mem_toFinset, List.mem_toFinset, hrecent]
  rw [← hkeys, List.toFinset_card_of_nodup hdistinct.of_append_left, List.length_map]

/-- When an entry is fresh, so are all in front of it. -/
theorem Remembers.filter_isFresh {memory : List CacheEntry × Nat} (h : Remembers store memory)
    {cache : Cache} {now : Nat} {recent older : List CacheEntry} {last : CacheEntry}
    (hentries : memory.1 = recent ++ last :: older) (hlast : cache.isFresh now last = true) :
    memory.1.filter (cache.isFresh now) =
      recent ++ last :: older.filter (cache.isFresh now) := by
  have hordered := h.ordered
  rw [hentries, List.pairwise_append] at hordered
  have hall : ∀ entry ∈ recent, cache.isFresh now entry = true := fun entry hentry =>
    Cache.isFresh_of_le (hordered.2.2 entry hentry last List.mem_cons_self) hlast
  rw [hentries, List.filter_append, List.filter_eq_self.mpr hall, List.filter_cons_of_pos hlast]

/-- A key has one of the first fresh entries exactly when it was used lately. -/
theorem exists_mem_take_remembered_iff (cache : Cache) (capacity : Nat) (key : EndpointKey)
    (visits : List Visit) :
    (∃ entry ∈ ((remembered store visits).1.filter (cache.isFresh (timeOf visits))).take capacity,
      entry.key = key) ↔ UsedLately capacity cache.ttl key visits := by
  have hremembers := remembers_remembered store visits
  have hfresh : ∀ {before since model}, visits = before ++ .get key :: since →
      (cache.isFresh (timeOf visits) ⟨key, model, timeOf before⟩ = true ↔
        timeOf since < cache.ttl) := by
    rintro before since model rfl
    have htime : timeOf (before ++ .get key :: since) - timeOf before = timeOf since := by
      rw [timeOf_append, Nat.add_sub_cancel_left, timeOf]
      exact Nat.zero_add _
    rw [Cache.isFresh_iff, htime]
  constructor
  case mp =>
    rintro ⟨entry, hentry, hkey⟩
    obtain ⟨hmem, hlately⟩ := List.mem_filter.mp (List.mem_of_mem_take hentry)
    obtain ⟨before, since, hvisits, hsince⟩ :=
      exists_append_cons_of_mem (hkey ▸ mem_of_mem_remembered store hmem)
    obtain ⟨recent, older, hentries, hrecent⟩ := exists_remembered_append store before hsince
    rw [← hvisits] at hentries
    obtain rfl : entry = ⟨key, store.find? key, timeOf before⟩ :=
      List.inj_on_of_nodup_map hremembers.distinct hmem (by simp [hentries]) hkey
    refine ⟨before, since, hvisits, hsince, (hfresh hvisits).mp hlately, ?_⟩
    rw [← length_of_remembered_append store hentries hrecent]
    by_contra hcapacity
    rw [hremembers.filter_isFresh store hentries hlately,
      List.take_append_of_le_length (Nat.le_of_not_lt hcapacity)] at hentry
    have hkeymem : key ∈ recent.map CacheEntry.key :=
      List.mem_map_of_mem (f := CacheEntry.key) (List.mem_of_mem_take hentry)
    exact hsince (mem_keysOf.mp ((hrecent key).mp hkeymem))
  case mpr =>
    rintro ⟨before, since, hvisits, hsince, htime, hcard⟩
    obtain ⟨recent, older, hentries, hrecent⟩ := exists_remembered_append store before hsince
    rw [← hvisits] at hentries
    rw [← length_of_remembered_append store hentries hrecent] at hcard
    obtain ⟨room, hroom⟩ := Nat.exists_eq_add_of_lt hcard
    have hroom' : capacity - recent.length = room + 1 := by omega
    refine ⟨⟨key, store.find? key, timeOf before⟩, ?_, rfl⟩
    rw [hremembers.filter_isFresh store hentries ((hfresh hvisits).mpr htime), List.take_append,
      hroom', List.take_succ_cons]
    exact List.mem_append_right _ List.mem_cons_self

end Remembered

namespace System

/-- A system with an empty cache over a store, in which nothing fails. -/
def ofStore (maxEntries ttl : Nat) (store : Store) : System where
  store
  cache := .new maxEntries ttl
  now := 0
  lookupFault := .none
  saveFault := .none
  lookups := 0

/-- The system after a visit. -/
def visit (system : System) : Visit → System
  | .get key => (system.get key).2
  | .wait milliseconds => system.advance milliseconds

/-- The system after visits. -/
def visitAll (system : System) (visits : List Visit) : System :=
  visits.foldl visit system

theorem visitAll_concat (system : System) (visits : List Visit) (visit : Visit) :
    system.visitAll (visits ++ [visit]) = (system.visitAll visits).visit visit :=
  List.foldl_concat ..

section

variable {system : System} {key : EndpointKey} {model : CachedModel}

/-- A request whose lookup finds something is a hit, and does nothing else. -/
theorem get_of_lookup_eq_some (h : (system.cache.lookup system.now key).1 = some model) :
    ∃ counters, counters.hits = system.cache.counters.hits + 1 ∧
      system.get key = (.ok model,
        { system with cache := { (system.cache.lookup system.now key).2 with counters } }) := by
  obtain ⟨expirations, hcounters⟩ := Cache.lookup_counters system.cache system.now key
  cases hlooked : system.cache.lookup system.now key with
  | mk answer looked =>
    rw [hlooked] at h hcounters
    obtain rfl : answer = some model := h
    refine ⟨{ looked.counters with hits := looked.counters.hits + 1 }, by rw [hcounters], ?_⟩
    simp only [get, access, Cache.access, Cache.firstLookup, hlooked]

/-- A request whose lookup finds nothing leads the next flight, if the key is not being loaded. -/
theorem access_of_lookup_eq_none (h : (system.cache.lookup system.now key).1 = none)
    (hquiet : system.cache.flight? key = none) :
    ∃ boarded : Cache,
      system.access key = (.leads system.cache.nextFlight, { system with cache := boarded }) ∧
      boarded.entries = (system.cache.lookup system.now key).2.entries ∧
      Cache.SameSettings system.cache boarded ∧ boarded.detached = system.cache.detached ∧
      boarded.counters.hits = system.cache.counters.hits := by
  obtain ⟨hanswer, hentries⟩ := system.cache.firstLookup_entries system.now key
  have hsettings := system.cache.sameSettings_firstLookup system.now key
  have hflights := system.cache.sameFlights_firstLookup system.now key
  obtain ⟨expirations, hcounters⟩ := system.cache.firstLookup_counters system.now key
  have hnone := hanswer.trans h
  unfold access Cache.access
  cases hfirst : system.cache.firstLookup system.now key with
  | mk answer looked =>
    rw [hfirst] at hentries hsettings hflights hcounters hnone
    obtain rfl : answer = none := hnone
    have habsent : looked.entry? key = none :=
      (Cache.entry?_of_entries hentries key).trans (Cache.entry?_of_lookup_eq_none h)
    have hsecond : looked.lookup system.now key = (none, looked) :=
      Cache.lookup_of_entry?_eq_none habsent
    have hboarding : (looked.board system.now key).1 = .leads system.cache.nextFlight := by
      rw [Cache.board_fst, hsecond, hflights.flight?_eq, hquiet, hflights.nextFlight]
      rfl
    obtain ⟨hsame, hsettings'⟩ := looked.board_entries_and_settings system.now key
    obtain ⟨expirations', hcounters'⟩ := looked.board_counters system.now key
    refine ⟨(looked.board system.now key).2, ?_, ?_, hsettings.trans hsettings', ?_, ?_⟩
    · exact Prod.ext hboarding rfl
    · rw [hsame, hsecond]
      exact hentries
    · rcases looked.board_cases system.now key with ⟨_, hcase, -⟩ | ⟨_, hcase, -⟩ |
        ⟨-, -, -, hdetached, -⟩
      · cases hboarding.symm.trans hcase
      · cases hboarding.symm.trans hcase
      · exact hdetached.trans hflights.detached
    · rw [hboarding] at hcounters'
      rw [hcounters', hcounters]
      rfl

/-- A request whose lookup finds nothing, when the key is not being loaded and nothing fails, looks
the key up in the store and ends its flight with what it found. -/
theorem get_of_lookup_eq_none (h : (system.cache.lookup system.now key).1 = none)
    (hquiet : system.cache.flight? key = none) (hfault : system.lookupFault.remaining = 0) :
    ∃ boarded : Cache, boarded.entries = (system.cache.lookup system.now key).2.entries ∧
      Cache.SameSettings system.cache boarded ∧ boarded.detached = system.cache.detached ∧
      boarded.counters.hits = system.cache.counters.hits ∧
      system.get key = (.ok (system.store.find? key),
        { system with
          cache := boarded.finish system.now key system.cache.nextFlight
            (.ok (system.store.find? key))
          lookups := system.lookups + 1 }) := by
  obtain ⟨boarded, haccess, hentries, hsettings, hdetached, hhits⟩ :=
    access_of_lookup_eq_none h hquiet
  refine ⟨boarded.countLoad, hentries, hsettings.trans ⟨rfl, rfl⟩, hdetached, hhits, ?_⟩
  simp only [get, haccess, load, finish, Fault.next_of_remaining hfault]

/-- The fresh entries behind a request: the one of its key in front of those that were fresh, as
many as there is room for. -/
theorem Settled.fresh_get (h : system.Settled) (htidy : system.cache.Tidy system.now)
    (hdetached : system.cache.detached = []) (hfault : system.lookupFault.remaining = 0)
    (httl : 0 < system.cache.ttl) (key : EndpointKey) :
    (system.get key).2.cache.fresh system.now =
      ⟨key, system.store.find? key, system.now⟩ ::
        (Cache.without key (system.cache.fresh system.now)).take (system.cache.capacity - 1) := by
  cases hlooked : (system.cache.lookup system.now key).1 with
  | some model =>
    obtain ⟨counters, -, hget⟩ := get_of_lookup_eq_some hlooked
    have hmodel := h.faithful key model (Cache.holds_of_lookup_eq_some hlooked)
    rw [hget, ← hmodel, ← htidy.fresh_lookup hlooked]
    rfl
  | none =>
    obtain ⟨boarded, hentries, hsettings, hboarded, -, hget⟩ :=
      get_of_lookup_eq_none hlooked (h.quiet key) hfault
    have habsent : boarded.entry? key = none :=
      (Cache.entry?_of_entries hentries key).trans (Cache.entry?_of_lookup_eq_none hlooked)
    rw [Cache.lookup_entries_of_eq_none hlooked] at hentries
    have hfresh : boarded.fresh system.now = Cache.without key (system.cache.fresh system.now) := by
      rw [Cache.fresh, hentries, hsettings.isFresh_eq, Cache.filter_without]
    have htidy' : boarded.Tidy system.now :=
      htidy.sublist hsettings.capacity (hentries ▸ Cache.without_sublist ..)
    have hkept : system.cache.nextFlight ∉ boarded.detached := by simp [hboarded, hdetached]
    have hfinish :=
      Cache.finish_entries_of_kept hkept system.now key (system.store.find? key)
    rw [htidy'.insert_entries habsent, hfresh, hsettings.capacity] at hfinish
    have hsame := hsettings.trans (Cache.sameSettings_finish boarded system.now key
      system.cache.nextFlight (.ok (system.store.find? key)))
    have hall : ∀ entry ∈ (Cache.without key (system.cache.fresh system.now)).take
        (system.cache.capacity - 1), system.cache.isFresh system.now entry = true := by
      intro entry hentry
      exact (List.mem_filter.mp (Cache.mem_without.mp ((List.take_subset _ _) hentry)).1).2
    rw [hget]
    dsimp only
    rw [hsame.fresh_cons httl hfinish, List.filter_eq_self.mpr hall]

/-- A request of a settled system takes no time and leaves no detached flight. -/
theorem Settled.get_frame (h : system.Settled) (hdetached : system.cache.detached = [])
    (hfault : system.lookupFault.remaining = 0) (key : EndpointKey) :
    (system.get key).2.now = system.now ∧ (system.get key).2.cache.detached = [] := by
  cases hlooked : (system.cache.lookup system.now key).1 with
  | some model =>
    obtain ⟨counters, -, hget⟩ := get_of_lookup_eq_some hlooked
    rw [hget]
    exact ⟨rfl, (Cache.sameFlights_lookup ..).detached.trans hdetached⟩
  | none =>
    obtain ⟨boarded, -, -, hboarded, -, hget⟩ :=
      get_of_lookup_eq_none hlooked (h.quiet key) hfault
    rw [hget]
    refine ⟨rfl, ?_⟩
    dsimp only
    rw [Cache.finish_detached, hboarded, hdetached]
    rfl

/-- A system over a store after visits. Its cache has the entries of the last requests that are
fresh, as many as there is room for. -/
structure Follows (maxEntries ttl : Nat) (store : Store) (visits : List Visit)
    (system : System) : Prop where
  /-- The cache was empty before the visits. -/
  uses : Cache.Uses (.new maxEntries ttl, 0) system.clocked
  /-- The store is the same. -/
  sameStore : system.store = store
  /-- It is as late as the visits say. -/
  now : system.now = timeOf visits
  /-- No lookup in the store fails. -/
  faultless : system.lookupFault.remaining = 0
  /-- Nobody is loading a model, and the cache agrees with the store. -/
  settled : system.Settled
  /-- No flight was detached. -/
  undetached : system.cache.detached = []
  /-- The fresh entries are those of the last requests. -/
  fresh : system.cache.fresh system.now =
    ((remembered store visits).1.filter (system.cache.isFresh system.now)).take
      (max 1 maxEntries)

section Follows

variable {maxEntries ttl : Nat} {store : Store} {visits : List Visit}

/-- The cache of a system after visits is tidy. -/
theorem Follows.tidy (h : Follows maxEntries ttl store visits system) :
    system.cache.Tidy system.now :=
  (Cache.tidy_new maxEntries ttl 0).uses h.uses

/-- Before any visit nothing is remembered. -/
theorem follows_ofStore (maxEntries ttl : Nat) (store : Store) :
    Follows maxEntries ttl store [] (ofStore maxEntries ttl store) where
  uses := .refl
  sameStore := rfl
  now := rfl
  faultless := rfl
  settled := ⟨fun _ => rfl, fun key model h => absurd h (Cache.not_holds_new _ _ key model)⟩
  undetached := rfl
  fresh := by simp [Cache.fresh, remembered, ofStore, Cache.new]

/-- Time that passes takes those away that expire. -/
theorem Follows.wait (h : Follows maxEntries ttl store visits system) (milliseconds : Nat) :
    Follows maxEntries ttl store (visits ++ [.wait milliseconds])
      (system.advance milliseconds) where
  uses := h.uses.tail (.wait milliseconds)
  sameStore := h.sameStore
  now := by
    rw [timeOf_append, ← h.now]
    rfl
  faultless := h.faultless
  settled := h.settled.of_views h.settled.quiet (fun _ _ hheld => hheld) rfl
  undetached := h.undetached
  fresh := by
    have hle : system.now ≤ system.now + milliseconds := Nat.le_add_right _ _
    have hordered := (remembers_remembered store visits).ordered.filter
      (system.cache.isFresh system.now)
    have hlater := system.cache.filter_isFresh_later hle
    rw [remembered_concat]
    calc (system.advance milliseconds).cache.fresh (system.now + milliseconds)
        = (system.cache.fresh system.now).filter
            (system.cache.isFresh (system.now + milliseconds)) := (hlater _).symm
      _ = _ := by
        rw [h.fresh, Cache.filter_take (hordered.imp Cache.isFresh_of_le), hlater]
        rfl

/-- A request brings the entry of its key to the front. -/
theorem Follows.get (h : Follows maxEntries ttl store visits system) (key : EndpointKey) :
    Follows maxEntries ttl store (visits ++ [.get key]) (system.get key).2 := by
  obtain ⟨hnow, hundetached⟩ := h.settled.get_frame h.undetached h.faultless key
  obtain ⟨hsettled, hstore, -⟩ := h.settled.get_cases key
  have hsame : Cache.SameSettings system.cache (system.get key).2.cache :=
    (system.uses_get key).sameSettings
  constructor
  case uses => exact h.uses.trans (system.uses_get key)
  case sameStore => exact hstore.trans h.sameStore
  case now =>
    rw [timeOf_append, hnow, ← h.now]
    rfl
  case faultless => exact get_remaining h.faultless key
  case settled => exact hsettled
  case undetached => exact hundetached
  case fresh =>
    rw [hnow, hsame.isFresh_eq, remembered_concat]
    rcases Nat.eq_zero_or_pos system.cache.ttl with httl | httl
    · have hnone : ∀ entries : List CacheEntry,
          entries.filter (system.cache.isFresh system.now) = [] := by
        intro entries
        refine List.filter_eq_nil_iff.mpr fun entry _ => ?_
        rw [Cache.isFresh_iff, httl]
        exact Nat.not_lt_zero _
      rw [Cache.fresh, hsame.isFresh_eq, hnone, hnone, List.take_nil]
    · have hcapacity : system.cache.capacity = max 1 maxEntries :=
        h.uses.sameSettings.capacity
      have htime : (remembered store visits).2 = system.now :=
        (remembered_snd store visits).trans h.now.symm
      have hself : system.cache.isFresh system.now
          ⟨key, store.find? key, (remembered store visits).2⟩ = true := by
        rw [Cache.isFresh_iff, htime, Nat.sub_self]
        exact httl
      rw [h.settled.fresh_get h.tidy h.undetached h.faultless httl, h.fresh, hcapacity,
        (remembers_remembered store visits).take_filter_get store hself (by omega), htime, h.sameStore]

/-- A system follows the visits that are made to it. -/
theorem follows_visitAll (maxEntries ttl : Nat) (store : Store) (visits : List Visit) :
    Follows maxEntries ttl store visits ((ofStore maxEntries ttl store).visitAll visits) := by
  induction visits using List.reverseRecOn with
  | nil => exact follows_ofStore maxEntries ttl store
  | append_singleton visits visit ih =>
    rw [visitAll_concat]
    cases visit with
    | get key => exact ih.get key
    | wait milliseconds => exact ih.wait milliseconds

/-- A lookup finds something exactly when the key was used lately. -/
theorem Follows.lookup_isSome_iff (h : Follows maxEntries ttl store visits system)
    (key : EndpointKey) :
    (system.cache.lookup system.now key).1.isSome ↔
      UsedLately (max 1 maxEntries) ttl key visits := by
  have httl : system.cache.ttl = ttl := h.uses.sameSettings.ttl
  have hremembered :=
    exists_mem_take_remembered_iff store system.cache (max 1 maxEntries) key visits
  rw [← h.now, ← h.fresh, httl] at hremembered
  rw [Option.isSome_iff_exists, ← hremembered]
  simp only [h.tidy.lookup_eq_some_iff]
  constructor
  · rintro ⟨model, entry, hentry, hkey, -⟩
    exact ⟨entry, hentry, hkey⟩
  · rintro ⟨entry, hentry, hkey⟩
    exact ⟨entry.model, entry, hentry, hkey, rfl⟩

end Follows

/-- Of keys that are requested one after another, a request answers with what the store has of its
key. It is a hit, and nothing is looked up in the store, exactly when the key was requested before,
the last time less than the time that entries stay ago, and since then fewer other keys were
requested than the cache has room for. Otherwise the key is looked up in the store once. -/
theorem hit_iff_used_lately (maxEntries ttl : Nat) (store : Store) (visits : List Visit)
    (key : EndpointKey) :
    let system := (ofStore maxEntries ttl store).visitAll visits
    let served := (system.get key).2
    (system.get key).1 = .ok (store.find? key) ∧
      (UsedLately (max 1 maxEntries) ttl key visits ↔
        served.cache.counters.hits = system.cache.counters.hits + 1) ∧
      (UsedLately (max 1 maxEntries) ttl key visits ↔ served.lookups = system.lookups) ∧
      (¬ UsedLately (max 1 maxEntries) ttl key visits ↔ served.lookups = system.lookups + 1) := by
  have h := follows_visitAll maxEntries ttl store visits
  generalize (ofStore maxEntries ttl store).visitAll visits = system at h
  intro system served
  rw [← h.lookup_isSome_iff key]
  cases hlooked : (system.cache.lookup system.now key).1 with
  | some model =>
    obtain ⟨counters, hhits, hget⟩ := get_of_lookup_eq_some hlooked
    have hmodel : model = store.find? key :=
      h.sameStore ▸ h.settled.faithful key model (Cache.holds_of_lookup_eq_some hlooked)
    have hserved : served.cache.counters.hits = system.cache.counters.hits + 1 ∧
        served.lookups = system.lookups := by
      simp only [served, hget]
      exact ⟨hhits, trivial⟩
    rw [hserved.1, hserved.2, hget, hmodel]
    simp
  | none =>
    obtain ⟨boarded, -, -, -, hhits, hget⟩ :=
      get_of_lookup_eq_none hlooked (h.settled.quiet key) h.faultless
    obtain ⟨evictions, expirations, hcounters⟩ := Cache.finish_counters boarded system.now key
      system.cache.nextFlight (.ok (system.store.find? key))
    have hserved : served.cache.counters.hits = system.cache.counters.hits ∧
        served.lookups = system.lookups + 1 := by
      simp only [served, hget, hcounters]
      exact ⟨hhits, trivial⟩
    rw [hserved.1, hserved.2, hget, h.sameStore]
    simp

end

end System

end ApiDrift
