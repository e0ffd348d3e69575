import ApiDrift.Proofs.Cache.Presence
import ApiDrift.Proofs.Cache.Recency
import Mathlib.Data.List.Nodup

/-!
# The fresh entries

What a cache answers depends on its fresh entries alone. A lookup that finds one brings it to the
front. An insertion puts the new entry in front of those that were fresh, as many as there is room
for, so the entries that have expired take no room from them.
-/

namespace ApiDrift.Cache

variable {cache after : Cache} {now : Nat} {key : EndpointKey} {entry : CacheEntry}
  {model : CachedModel}

/-- The fresh entries of a cache at a time, the most recently used one first. -/
def fresh (cache : Cache) (now : Nat) : List CacheEntry :=
  cache.entries.filter (cache.isFresh now)

/-- An entry is fresh when less time has passed since its last use than entries stay. -/
theorem isFresh_iff : cache.isFresh now entry = true ↔ now - entry.lastAccess < cache.ttl := by
  rw [isFresh, decide_eq_true_eq]

/-- The same entries are fresh in caches whose entries stay for as long. -/
theorem SameSettings.isFresh_eq (h : SameSettings cache after) (now : Nat) :
    after.isFresh now = cache.isFresh now := by
  funext entry
  rw [isFresh, isFresh, h.ttl]

/-- What is fresh later is fresh now. -/
theorem isFresh_of_later {later : Nat} (hle : now ≤ later) (h : cache.isFresh later entry = true) :
    cache.isFresh now entry = true := by
  rw [isFresh_iff] at h ⊢
  omega

/-- What is fresh later is what is fresh later of what is fresh now. -/
theorem filter_isFresh_later (cache : Cache) {later : Nat} (hle : now ≤ later)
    (entries : List CacheEntry) :
    (entries.filter (cache.isFresh now)).filter (cache.isFresh later) =
      entries.filter (cache.isFresh later) := by
  rw [List.filter_filter]
  refine List.filter_congr fun entry _ => ?_
  cases hlater : cache.isFresh later entry with
  | true => rw [isFresh_of_later hle hlater]; rfl
  | false => rfl

/-- Of the first entries without a key, all but one are among the first ones of the entries without
the key. -/
theorem take_without_take {entries : List CacheEntry} (h : (entries.map CacheEntry.key).Nodup)
    (key : EndpointKey) (n : Nat) :
    (without key (entries.take n)).take (n - 1) = (without key entries).take (n - 1) := by
  have hsplit : without key entries =
      without key (entries.take n) ++ without key (entries.drop n) := by
    rw [without, ← List.take_append_drop n entries, List.filter_append, List.take_append_drop]
    rfl
  have hdistinct : ((entries.take n).map CacheEntry.key).Nodup :=
    h.sublist ((List.take_sublist n entries).map CacheEntry.key)
  have hlength := length_without_add hdistinct key
  rw [List.length_take] at hlength
  rcases Nat.le_total n entries.length with hlong | hshort
  · have hfew : n - 1 ≤ (without key (entries.take n)).length := by
      split at hlength <;> omega
    rw [hsplit, List.take_append_of_le_length hfew]
  · rw [List.take_of_length_le hshort]

/-- Taking the first items and keeping those that satisfy a condition can be swapped, if the
condition holds of everything before an item of which it holds. -/
theorem filter_take {α : Type} {p : α → Bool} {items : List α}
    (h : items.Pairwise fun a b => p b = true → p a = true) (n : Nat) :
    (items.take n).filter p = (items.filter p).take n := by
  induction items generalizing n with
  | nil => simp
  | cons first rest ih =>
    obtain ⟨hfirst, hrest⟩ := List.pairwise_cons.mp h
    cases n with
    | zero => rfl
    | succ n =>
      cases hp : p first with
      | true =>
        rw [List.take_succ_cons, List.filter_cons_of_pos hp, List.filter_cons_of_pos hp,
          List.take_succ_cons, ih hrest]
      | false =>
        have hnone : (first :: rest).filter p = [] := by
          rw [List.filter_eq_nil_iff, List.forall_mem_cons]
          refine ⟨by simp [hp], fun item hitem hholds => ?_⟩
          rw [hfirst item hitem hholds] at hp
          cases hp
        have hsub := (List.take_sublist (n + 1) (first :: rest)).filter p
        rw [hnone] at hsub ⊢
        rw [List.sublist_nil.mp hsub, List.take_nil]

/-- Among entries of distinct keys, an entry is the one that is found for its key. -/
theorem Tidy.entry?_eq_some_iff (h : cache.Tidy now) :
    cache.entry? key = some entry ↔ entry ∈ cache.entries ∧ entry.key = key := by
  refine ⟨entry?_mem, fun ⟨hmem, hkey⟩ => ?_⟩
  cases hfound : cache.entry? key with
  | none =>
    refine absurd ⟨entry, hmem, hkey, rfl⟩ (entry?_eq_none_iff.mp hfound entry.model)
  | some found =>
    obtain ⟨hfoundmem, hfoundkey⟩ := entry?_mem hfound
    exact congrArg some (List.inj_on_of_nodup_map h.distinct hfoundmem hmem
      (hfoundkey.trans hkey.symm))

/-- A lookup finds something exactly when the key has a fresh entry, and it finds its model. -/
theorem Tidy.lookup_eq_some_iff (h : cache.Tidy now) :
    (cache.lookup now key).1 = some model ↔
      ∃ entry ∈ cache.fresh now, entry.key = key ∧ entry.model = model := by
  rw [lookup_fst]
  simp only [Option.map_eq_some_iff, Option.filter_eq_some_iff, h.entry?_eq_some_iff, fresh,
    List.mem_filter, and_assoc, and_left_comm]

/-- The entries of a key without one are all that there are. -/
theorem without_of_entry?_eq_none (h : cache.entry? key = none) :
    without key cache.entries = cache.entries := by
  refine List.filter_eq_self.mpr fun other hother => ?_
  simpa using List.find?_eq_none.mp h other hother

/-- A lookup takes the entry of its key away, and puts it in front if it is fresh. -/
theorem lookup_entries (cache : Cache) (now : Nat) (key : EndpointKey) :
    (cache.lookup now key).2.entries =
      (((cache.entry? key).filter (cache.isFresh now)).map fun entry =>
        { entry with lastAccess := now }).toList ++ without key cache.entries := by
  unfold lookup
  cases hentry : cache.entry? key with
  | none =>
    rw [without_of_entry?_eq_none hentry]
    rfl
  | some entry =>
    dsimp only
    cases hfresh : cache.isFresh now entry <;> simp [Option.filter, hfresh]

/-- The entries of other keys that are fresh are the fresh entries without the key. -/
theorem filter_without (cache : Cache) (now : Nat) (key : EndpointKey) :
    (without key cache.entries).filter (cache.isFresh now) = without key (cache.fresh now) :=
  List.filter_comm ..

/-- When an entry that is used now comes in front of others, it is the first of the fresh ones. -/
theorem SameSettings.fresh_cons (h : SameSettings cache after) (httl : 0 < cache.ttl)
    {rest : List CacheEntry} (hentries : after.entries = ⟨key, model, now⟩ :: rest) :
    after.fresh now = ⟨key, model, now⟩ :: rest.filter (cache.isFresh now) := by
  have hused : cache.isFresh now ⟨key, model, now⟩ = true := by
    rw [isFresh_iff, Nat.sub_self]
    exact httl
  rw [fresh, h.isFresh_eq, hentries, List.filter_cons_of_pos hused]

/-- Behind a lookup that finds something, the entry of the key is the first of the fresh ones, and
no other one has gone. -/
theorem Tidy.fresh_lookup (h : cache.Tidy now) (hfound : (cache.lookup now key).1 = some model) :
    fresh (cache.lookup now key).2 now =
      ⟨key, model, now⟩ :: (without key (cache.fresh now)).take (cache.capacity - 1) := by
  obtain ⟨entry, hentry, hkey, rfl⟩ := h.lookup_eq_some_iff.mp hfound
  obtain ⟨hmem, hfresh⟩ := List.mem_filter.mp hentry
  have hentries := lookup_entries cache now key
  rw [h.entry?_eq_some_iff.mpr ⟨hmem, hkey⟩, Option.filter_some, if_pos hfresh] at hentries
  have hfewer : (without key (cache.fresh now)).length < (cache.fresh now).length :=
    List.length_filter_lt_length_iff_exists.mpr ⟨entry, hentry, by simp [hkey]⟩
  have hbounded : (cache.fresh now).length ≤ cache.capacity :=
    Nat.le_trans (List.length_filter_le _ _) h.bounded
  have httl : 0 < cache.ttl := Nat.lt_of_le_of_lt (Nat.zero_le _) (isFresh_iff.mp hfresh)
  rw [List.take_of_length_le (by omega), ← filter_without]
  exact (sameSettings_lookup cache now key).fresh_cons httl (hkey ▸ hentries)

/-- A lookup that finds nothing leaves the entries of the other keys. -/
theorem lookup_entries_of_eq_none (h : (cache.lookup now key).1 = none) :
    (cache.lookup now key).2.entries = without key cache.entries := by
  rw [lookup_fst, Option.map_eq_none_iff] at h
  rw [lookup_entries, h]
  rfl

/-- An insertion into a tidy cache puts the entry of a new key in front of the fresh ones, of which
there stay as many as there is room for. -/
theorem Tidy.insert_entries (h : cache.Tidy now) (hnew : cache.entry? key = none)
    (model : CachedModel) :
    (cache.insert now key model).entries =
      ⟨key, model, now⟩ :: (cache.fresh now).take (cache.capacity - 1) := by
  have hswept : (cache.sweep now).entries = cache.fresh now := h.sweep_entries
  have hcapacity : (cache.sweep now).capacity = cache.capacity := rfl
  have habsent : entry? (cache.sweep now) key = none :=
    entry?_eq_none_of_holds hnew fun _ hheld => hheld.of_subset (sweep_entries_subset cache now)
  have hbounded : (cache.fresh now).length ≤ cache.capacity :=
    Nat.le_trans (List.length_filter_le _ _) h.bounded
  unfold Cache.insert Cache.push
  rw [habsent, hswept, hcapacity, if_neg (by simp)]
  split
  · next hfull =>
    have hlength : (cache.fresh now).length = cache.capacity := Nat.le_antisymm hbounded hfull
    rw [List.dropLast_eq_take, hlength]
  · next hroom => rw [List.take_of_length_le (by omega)]

/-- The end of a flight that was not detached inserts what was found. -/
theorem finish_entries_of_kept {flight : FlightId} (hkept : flight ∉ cache.detached) (now : Nat)
    (key : EndpointKey) (model : CachedModel) :
    (cache.finish now key flight (.ok model)).entries = (cache.insert now key model).entries := by
  rw [finish_entries, settle, if_neg (by simpa using hkept)]

end ApiDrift.Cache
