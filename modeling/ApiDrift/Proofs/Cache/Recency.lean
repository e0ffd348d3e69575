import ApiDrift.Proofs.Cache.Use
import Mathlib.Data.List.DropRight

/-!
# The order of use

The entries of a cache stand in the order of their last use, and every operation keeps the order in
step with the times that the entries carry. So the expired entries are the ones at the end, where
an insertion sweeps them, and the entry that makes room for a new one is the one whose last use
lies furthest back.
-/

namespace ApiDrift.Cache

variable {cache after : Cache} {now : Nat} {key : EndpointKey} {entry : CacheEntry}

/-- At a time, the entries of a cache are few enough, of distinct keys, and in the order of their
last use. -/
structure Tidy (cache : Cache) (now : Nat) : Prop where
  /-- There is room for an entry. -/
  roomy : 0 < cache.capacity
  /-- No key has two entries. -/
  distinct : (cache.entries.map CacheEntry.key).Nodup
  /-- There are no more entries than there is room for. -/
  bounded : cache.entries.length ≤ cache.capacity
  /-- No entry was used later than one that stands before it. -/
  ordered : cache.entries.Pairwise fun a b => b.lastAccess ≤ a.lastAccess
  /-- No entry was used later than now. -/
  past : ∀ entry ∈ cache.entries, entry.lastAccess ≤ now

/-- An empty cache is tidy. -/
theorem tidy_new (maxEntries ttl now : Nat) : (new maxEntries ttl).Tidy now where
  roomy := Nat.lt_of_lt_of_le Nat.one_pos (Nat.le_max_left 1 maxEntries)
  distinct := .nil
  bounded := Nat.zero_le _
  ordered := .nil
  past := by simp [new]

/-- A tidy cache stays tidy when entries are taken away. -/
theorem Tidy.sublist (h : cache.Tidy now) (hcapacity : after.capacity = cache.capacity)
    (hsub : after.entries.Sublist cache.entries) : after.Tidy now where
  roomy := hcapacity ▸ h.roomy
  distinct := h.distinct.sublist (hsub.map CacheEntry.key)
  bounded := hcapacity ▸ Nat.le_trans hsub.length_le h.bounded
  ordered := h.ordered.sublist hsub
  past entry hentry := h.past entry (hsub.subset hentry)

/-- A tidy cache stays tidy when an entry that is used now comes to the front of others. -/
theorem Tidy.cons {rest : List CacheEntry} (h : cache.Tidy now)
    (hcapacity : after.capacity = cache.capacity) (hentries : after.entries = entry :: rest)
    (hused : entry.lastAccess = now) (hsub : rest.Sublist cache.entries)
    (hnew : ∀ other ∈ rest, other.key ≠ entry.key) (hroom : rest.length < cache.capacity) :
    after.Tidy now where
  roomy := hcapacity ▸ h.roomy
  distinct := by
    rw [hentries, List.map_cons, List.nodup_cons]
    refine ⟨fun hmem => ?_, h.distinct.sublist (hsub.map CacheEntry.key)⟩
    obtain ⟨other, hother, hkey⟩ := List.mem_map.mp hmem
    exact hnew other hother hkey
  bounded := by
    rw [hentries, hcapacity, List.length_cons]
    exact hroom
  ordered := by
    rw [hentries, List.pairwise_cons, hused]
    exact ⟨fun other hother => h.past other (hsub.subset hother), h.ordered.sublist hsub⟩
  past := by
    rw [hentries, List.forall_mem_cons]
    exact ⟨Nat.le_of_eq hused, fun other hother => h.past other (hsub.subset hother)⟩

/-- A tidy cache stays tidy as time passes. -/
theorem Tidy.later {later : Nat} (h : cache.Tidy now) (hle : now ≤ later) : cache.Tidy later where
  roomy := h.roomy
  distinct := h.distinct
  bounded := h.bounded
  ordered := h.ordered
  past entry hentry := Nat.le_trans (h.past entry hentry) hle

/-- The entries without a key are some of the entries. -/
theorem without_sublist (key : EndpointKey) (entries : List CacheEntry) :
    (without key entries).Sublist entries :=
  List.filter_sublist

/-- A key that has an entry is not among the others, which are fewer. -/
theorem length_without_lt (h : cache.entry? key = some entry) :
    (without key cache.entries).length < cache.entries.length := by
  obtain ⟨hmem, hkey⟩ := entry?_mem h
  exact List.length_filter_lt_length_iff_exists.mpr ⟨entry, hmem, by simp [hkey]⟩

/-- Of entries of distinct keys, at most one is of a key. -/
theorem length_without_add {entries : List CacheEntry}
    (h : (entries.map CacheEntry.key).Nodup) (key : EndpointKey) :
    (without key entries).length +
      (if (entries.find? fun entry => entry.key == key).isSome then 1 else 0) =
        entries.length := by
  induction entries with
  | nil => rfl
  | cons first rest ih =>
    obtain ⟨hfirst, hrest⟩ := List.nodup_cons.mp h
    by_cases hkey : first.key = key
    · have hall : without key rest = rest := by
        refine List.filter_eq_self.mpr fun other hother => ?_
        have hne : other.key ≠ key := fun heq =>
          hfirst (hkey.trans heq.symm ▸ List.mem_map_of_mem hother)
        simpa using hne
      have hwithout : without key (first :: rest) = without key rest :=
        List.filter_cons_of_neg (by simpa using hkey)
      rw [hwithout, hall, List.find?_cons_of_pos (by simpa using hkey)]
      rfl
    · have hwithout : without key (first :: rest) = first :: without key rest :=
        List.filter_cons_of_pos (by simpa using hkey)
      have hfind := ih hrest
      rw [hwithout, List.find?_cons_of_neg (by simpa using hkey), List.length_cons,
        List.length_cons]
      omega

/-- A lookup keeps a cache tidy: the entry that it finds is used now, or goes when it is too old. -/
theorem Tidy.lookup (h : cache.Tidy now) (key : EndpointKey) :
    (cache.lookup now key).2.Tidy now := by
  unfold Cache.lookup
  split
  · exact h
  · next entry hentry =>
    dsimp only
    split
    · have hkey := (entry?_mem hentry).2
      refine h.cons rfl rfl rfl (without_sublist key cache.entries) (fun other hother => ?_) ?_
      · exact hkey ▸ (mem_without.mp hother).2
      · exact Nat.lt_of_lt_of_le (length_without_lt hentry) h.bounded
    · exact h.sublist rfl (without_sublist key cache.entries)

/-- An entry is fresh that was not used before a fresh one. -/
theorem isFresh_of_le {a b : CacheEntry} (hle : b.lastAccess ≤ a.lastAccess)
    (h : cache.isFresh now b = true) : cache.isFresh now a = true := by
  simp only [isFresh, decide_eq_true_eq] at h ⊢
  omega

/-- Cutting the entries off at the end that do not satisfy a condition leaves those that do, if the
condition holds of everything before an entry of which it holds. -/
theorem rdropWhile_eq_filter {α : Type} {p : α → Bool} {items : List α}
    (h : items.Pairwise fun a b => p b = true → p a = true) :
    items.rdropWhile (fun a => !p a) = items.filter p := by
  induction items using List.reverseRecOn with
  | nil => rfl
  | append_singleton items last ih =>
    obtain ⟨hitems, -, hlast⟩ := List.pairwise_append.mp h
    cases hp : p last with
    | false =>
      rw [List.rdropWhile_concat_pos _ _ _ (by simp [hp]), ih hitems, List.filter_append]
      simp [hp]
    | true =>
      rw [List.rdropWhile_concat_neg _ _ _ (by simp [hp]), eq_comm, List.filter_eq_self]
      intro a ha
      rcases List.mem_append.mp ha with ha | ha
      · exact hlast a ha last (List.mem_singleton.mpr rfl) hp
      · rw [List.mem_singleton.mp ha, hp]

/-- A sweep of a tidy cache leaves exactly the entries that are fresh. -/
theorem Tidy.sweep_entries (h : cache.Tidy now) :
    (cache.sweep now).entries = cache.entries.filter (cache.isFresh now) :=
  rdropWhile_eq_filter (h.ordered.imp isFresh_of_le)

/-- A sweep keeps a cache tidy. -/
theorem Tidy.sweep (h : cache.Tidy now) : (cache.sweep now).Tidy now :=
  h.sublist rfl (h.sweep_entries ▸ List.filter_sublist)

/-- What a push leaves behind the new entry is of other keys: all that is of another key when the
key had an entry, all but the last one when there is no room, and everything otherwise. -/
theorem push_cases (cache : Cache) (entry : CacheEntry) :
    ∃ rest, (cache.push entry).entries = entry :: rest ∧
      (∀ other ∈ rest, other.key ≠ entry.key) ∧
        ((rest = without entry.key cache.entries ∧ rest.length < cache.entries.length) ∨
          (rest = cache.entries.dropLast ∧ cache.capacity ≤ cache.entries.length) ∨
          (rest = cache.entries ∧ cache.entries.length < cache.capacity)) := by
  unfold push
  split
  · next hsome =>
    obtain ⟨old, hold⟩ := Option.isSome_iff_exists.mp hsome
    exact ⟨_, rfl, fun other hother => (mem_without.mp hother).2,
      .inl ⟨rfl, length_without_lt hold⟩⟩
  · next hnone =>
    have hnew : ∀ other ∈ cache.entries, other.key ≠ entry.key := by
      intro other hother
      have hnone := Option.not_isSome_iff_eq_none.mp hnone
      simpa using List.find?_eq_none.mp hnone other hother
    split
    · next hfull =>
      exact ⟨_, rfl, fun other hother => hnew other ((List.dropLast_sublist _).subset hother),
        .inr (.inl ⟨rfl, hfull⟩)⟩
    · next hroom => exact ⟨_, rfl, hnew, .inr (.inr ⟨rfl, Nat.lt_of_not_le hroom⟩)⟩

/-- A push of an entry that is used now keeps a cache tidy. -/
theorem Tidy.push (h : cache.Tidy now) (hused : entry.lastAccess = now) :
    (cache.push entry).Tidy now := by
  have hbounded := h.bounded
  have hroomy := h.roomy
  have hcapacity := (sameSettings_push cache entry).capacity
  obtain ⟨rest, hentries, hnew, ⟨rfl, hshorter⟩ | ⟨rfl, -⟩ | ⟨rfl, hroom⟩⟩ :=
    push_cases cache entry
  · exact h.cons hcapacity hentries hused (without_sublist ..) hnew
      (Nat.lt_of_lt_of_le hshorter hbounded)
  · refine h.cons hcapacity hentries hused (List.dropLast_sublist _) hnew ?_
    rw [List.length_dropLast]
    omega
  · exact h.cons hcapacity hentries hused (.refl _) hnew hroom

/-- An insertion keeps a cache tidy. -/
theorem Tidy.insert (h : cache.Tidy now) (key : EndpointKey) (model : CachedModel) :
    (cache.insert now key model).Tidy now :=
  h.sweep.push rfl

/-- Dropping a key keeps a cache tidy. -/
theorem Tidy.evict (h : cache.Tidy now) (key : EndpointKey) : (cache.evict key).Tidy now :=
  h.sublist rfl (without_sublist key cache.entries)

/-- The end of a flight keeps a cache tidy. -/
theorem Tidy.finish (h : cache.Tidy now) (key : EndpointKey) (flight : FlightId)
    (outcome : LoadOutcome) : (cache.finish now key flight outcome).Tidy now := by
  have hsettled : (cache.settle now key flight outcome).Tidy now := by
    unfold settle
    split
    · split
      · exact h
      · exact h.insert key _
    · exact h.sublist rfl (.refl _)
  refine hsettled.sublist ?_ (finish_entries .. ▸ .refl _)
  rw [(sameSettings_finish ..).capacity, (sameSettings_settle ..).capacity]

/-- Every operation keeps a cache tidy. -/
theorem Tidy.use {later : Nat} (h : cache.Tidy now) (huse : Use (cache, now) (after, later)) :
    after.Tidy later := by
  cases huse with
  | firstLookup key =>
    refine (h.lookup key).sublist ?_ ((firstLookup_entries ..).2 ▸ .refl _)
    rw [(sameSettings_firstLookup ..).capacity, (sameSettings_lookup ..).capacity]
  | board key =>
    obtain ⟨hentries, hsettings⟩ := board_entries_and_settings cache now key
    refine (h.lookup key).sublist ?_ (hentries ▸ .refl _)
    rw [hsettings.capacity, (sameSettings_lookup ..).capacity]
  | countLoad => exact h.sublist rfl (.refl _)
  | finish key flight outcome => exact h.finish key flight outcome
  | evict key => exact h.evict key
  | wait milliseconds => exact h.later (Nat.le_add_right now milliseconds)

/-- Operations keep a cache tidy. -/
theorem Tidy.uses {later : Nat} (h : cache.Tidy now) (huses : Uses (cache, now) (after, later)) :
    after.Tidy later := by
  generalize hend : (after, later) = last at huses
  induction huses generalizing after later with
  | refl =>
    cases hend
    exact h
  | @tail between _ _ huse ih =>
    subst hend
    exact (ih rfl).use huse

/-- An insertion into a tidy cache leaves nothing but fresh entries of other keys behind the new
one. -/
theorem Tidy.exists_insert (h : cache.Tidy now) (key : EndpointKey) (model : CachedModel) :
    ∃ rest, (cache.insert now key model).entries = ⟨key, model, now⟩ :: rest ∧
      ∀ other ∈ rest, other.key ≠ key ∧ cache.isFresh now other = true := by
  have hfresh : ∀ other ∈ (cache.sweep now).entries, cache.isFresh now other = true := by
    rw [h.sweep_entries]
    exact fun other hother => (List.mem_filter.mp hother).2
  obtain ⟨rest, hentries, hnew, hcases⟩ := push_cases (cache.sweep now) ⟨key, model, now⟩
  refine ⟨rest, hentries, fun other hother => ⟨hnew other hother, hfresh other ?_⟩⟩
  rcases hcases with ⟨rfl, -⟩ | ⟨rfl, -⟩ | ⟨rfl, -⟩
  · exact (mem_without.mp hother).1
  · exact (List.dropLast_sublist _).subset hother
  · exact hother

/-- A fresh entry of another key that an insertion into a tidy cache displaces was the least
recently used one, and the cache was full of fresh entries. -/
theorem Tidy.full_of_displaced (h : cache.Tidy now) {model : CachedModel}
    (hentry : entry ∈ cache.entries) (hfresh : cache.isFresh now entry = true)
    (hkey : entry.key ≠ key) (hgone : entry ∉ (cache.insert now key model).entries) :
    cache.entries.length = cache.capacity ∧
      ∀ other ∈ cache.entries,
        cache.isFresh now other = true ∧ entry.lastAccess ≤ other.lastAccess := by
  have hswept : entry ∈ (cache.sweep now).entries := by
    rw [h.sweep_entries]
    exact List.mem_filter.mpr ⟨hentry, hfresh⟩
  obtain ⟨rest, hentries, -, hcases⟩ := push_cases (cache.sweep now) ⟨key, model, now⟩
  have hgone : entry ∉ rest := by
    intro hrest
    exact hgone (hentries ▸ List.mem_cons_of_mem _ hrest)
  rcases hcases with ⟨rfl, -⟩ | ⟨rfl, hfull⟩ | ⟨rfl, -⟩
  · exact absurd (mem_without.mpr ⟨hswept, hkey⟩) hgone
  · have hall : (cache.sweep now).entries = cache.entries := by
      refine List.Sublist.eq_of_length_le ?_ (Nat.le_trans h.bounded hfull)
      rw [h.sweep_entries]
      exact List.filter_sublist
    rw [hall] at hfull hgone
    refine ⟨Nat.le_antisymm h.bounded hfull, fun other hother => ⟨?_, ?_⟩⟩
    · rw [← hall, h.sweep_entries] at hother
      exact (List.mem_filter.mp hother).2
    · have hne : cache.entries ≠ [] := List.ne_nil_of_mem hentry
      have hlast := List.dropLast_concat_getLast hne
      have hordered := h.ordered
      rw [← hlast, List.pairwise_append] at hordered
      rw [← hlast, List.mem_append, List.mem_singleton] at hentry hother
      obtain rfl := hentry.resolve_left hgone
      rcases hother with hother | rfl
      · exact hordered.2.2 other hother _ (List.mem_singleton.mpr rfl)
      · exact Nat.le_refl _
  · exact absurd hswept hgone

/-- However an empty cache is used, its entries are no more than there is room for, of distinct
keys, and in the order of their last use. So a sweep at their end leaves exactly the fresh entries;
behind an entry that is inserted there are only fresh ones; and an insertion displaces a fresh
entry of another key only when the cache is full of fresh entries, of which the displaced one was
used least recently. -/
theorem Uses.recency {maxEntries ttl start now : Nat} {cache : Cache}
    (huses : Uses (new maxEntries ttl, start) (cache, now)) :
    (cache.entries.map CacheEntry.key).Nodup ∧ cache.entries.length ≤ max 1 maxEntries ∧
      cache.entries.Pairwise (fun a b => b.lastAccess ≤ a.lastAccess) ∧ cache.ttl = ttl ∧
        (cache.sweep now).entries = cache.entries.filter (cache.isFresh now) ∧
          ∀ (key : EndpointKey) (model : CachedModel),
            (∃ rest, (cache.insert now key model).entries = ⟨key, model, now⟩ :: rest ∧
              ∀ other ∈ rest, other.key ≠ key ∧ cache.isFresh now other = true) ∧
            ∀ entry ∈ cache.entries, cache.isFresh now entry = true → entry.key ≠ key →
              entry ∉ (cache.insert now key model).entries →
                cache.entries.length = max 1 maxEntries ∧
                  ∀ other ∈ cache.entries,
                    cache.isFresh now other = true ∧ entry.lastAccess ≤ other.lastAccess := by
  have htidy : cache.Tidy now := (tidy_new maxEntries ttl start).uses huses
  have hcapacity : cache.capacity = max 1 maxEntries := huses.sameSettings.capacity
  refine ⟨htidy.distinct, hcapacity ▸ htidy.bounded, htidy.ordered, huses.sameSettings.ttl,
    htidy.sweep_entries, fun key model => ⟨htidy.exists_insert key model, ?_⟩⟩
  intro entry hentry hfresh hkey hgone
  rw [← hcapacity]
  exact htidy.full_of_displaced hentry hfresh hkey hgone

/-- A session in which one key was requested. During the next load another one will be requested
and the first one dropped. -/
def visited : Session :=
  ((Session.new { maxEntries := 2, ttl := 10 } {} {}).get ⟨"GET:/a"⟩).2.2.arm
    [.get ⟨"GET:/b"⟩, .advance 3, .evict ⟨"GET:/a"⟩]

/-- The session after a third key was requested. -/
def crowded : Session :=
  (visited.get ⟨"GET:/c"⟩).2.2

/-- The cache is full, and one more entry displaces the least recently used one. -/
theorem recency_crowded :
    crowded.system.cache.entries = [⟨⟨"GET:/c"⟩, none, 3⟩, ⟨⟨"GET:/b"⟩, none, 0⟩] ∧
      (crowded.system.cache.insert 3 ⟨"GET:/d"⟩ none).entries =
          [⟨⟨"GET:/d"⟩, none, 3⟩, ⟨⟨"GET:/c"⟩, none, 3⟩] ∧
        ∀ other ∈ crowded.system.cache.entries,
          crowded.system.cache.isFresh 3 other = true ∧ 0 ≤ other.lastAccess := by
  have hvisited : Uses (new 2 10, 0) visited.system.clocked :=
    Session.uses_get (.new { maxEntries := 2, ttl := 10 } {} {}) ⟨"GET:/a"⟩
  have hcrowded : Uses visited.system.clocked crowded.system.clocked :=
    visited.uses_get ⟨"GET:/c"⟩
  have hnow : crowded.system.clocked = (crowded.system.cache, 3) :=
    Prod.ext rfl (by decide +kernel)
  have hentries : crowded.system.cache.entries =
      [⟨⟨"GET:/c"⟩, none, 3⟩, ⟨⟨"GET:/b"⟩, none, 0⟩] := by decide +kernel
  have hinsert : (crowded.system.cache.insert 3 ⟨"GET:/d"⟩ none).entries =
      [⟨⟨"GET:/d"⟩, none, 3⟩, ⟨⟨"GET:/c"⟩, none, 3⟩] := by decide +kernel
  obtain ⟨-, -, -, -, -, hdisplaced⟩ := Uses.recency (hnow ▸ hvisited.trans hcrowded)
  have hall := (hdisplaced ⟨"GET:/d"⟩ none).2 ⟨⟨"GET:/b"⟩, none, 0⟩ (by simp [hentries])
    (by decide +kernel) (by decide) (by simp [hinsert])
  exact ⟨hentries, hinsert, hall.2⟩

end ApiDrift.Cache
