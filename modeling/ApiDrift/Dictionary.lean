/-!
# Dictionaries

A dictionary maps names to values. Its entries stand in increasing order of their names, so two
dictionaries with the same values under the same names are equal. A later entry of a name
replaces an earlier one.
-/

namespace ApiDrift

/-- Entries with `value` under `name`, in the place that the order of the names gives it. -/
def insertEntry {α : Type} (name : String) (value : α) :
    List (String × α) → List (String × α)
  | [] => [(name, value)]
  | entry :: rest =>
    if name < entry.1 then (name, value) :: entry :: rest
    else if name = entry.1 then (name, value) :: rest
    else entry :: insertEntry name value rest

/-- Every name of the result is the new one or an old one. -/
theorem mem_insertEntry {α : Type} {name : String} {value : α} {entries : List (String × α)}
    {entry : String × α} (h : entry ∈ insertEntry name value entries) :
    entry = (name, value) ∨ entry ∈ entries := by
  induction entries with
  | nil => simpa [insertEntry] using h
  | cons first rest ih =>
    simp only [insertEntry] at h
    split at h
    · simpa using h
    · split at h
      · rcases List.mem_cons.mp h with h | h
        · exact .inl h
        · exact .inr (List.mem_cons_of_mem _ h)
      · rcases List.mem_cons.mp h with h | h
        · exact .inr (h ▸ List.mem_cons_self)
        · exact (ih h).imp_right (List.mem_cons_of_mem _)

/-- Of two names that are not in order and not equal, the second comes first. -/
theorem name_lt_of_not {a b : String} (hlt : ¬a < b) (hne : ¬a = b) : b < a := by
  rcases Std.lt_trichotomy a b with h | h | h
  · exact absurd h hlt
  · exact absurd h hne
  · exact h

/-- Insertion keeps the names in increasing order. -/
theorem pairwise_insertEntry {α : Type} {name : String} {value : α}
    {entries : List (String × α)} (h : entries.Pairwise fun a b => a.1 < b.1) :
    (insertEntry name value entries).Pairwise fun a b => a.1 < b.1 := by
  induction entries with
  | nil => simp [insertEntry]
  | cons first rest ih =>
    have hrest := (List.pairwise_cons.mp h).2
    have hfirst := (List.pairwise_cons.mp h).1
    simp only [insertEntry]
    split
    · next hlt =>
      refine List.pairwise_cons.mpr ⟨fun entry hentry => ?_, h⟩
      rcases List.mem_cons.mp hentry with rfl | hentry
      · exact hlt
      · exact Std.lt_trans hlt (hfirst entry hentry)
    · next hlt =>
      split
      · next heq =>
        refine List.pairwise_cons.mpr ⟨fun entry hentry => ?_, hrest⟩
        simpa [heq] using hfirst entry hentry
      · next hne =>
        refine List.pairwise_cons.mpr ⟨fun entry hentry => ?_, ih hrest⟩
        rcases mem_insertEntry hentry with rfl | hentry
        · exact name_lt_of_not hlt hne
        · exact hfirst entry hentry

/-- A finite map from names to values. -/
structure Dictionary (α : Type) where
  /-- The entries in increasing order of their names. -/
  entries : List (String × α)
  /-- No name stands twice or out of order. -/
  ordered : entries.Pairwise fun a b => a.1 < b.1

namespace Dictionary

variable {α : Type}

/-- The dictionary without entries. -/
def empty : Dictionary α := ⟨[], .nil⟩

instance : EmptyCollection (Dictionary α) := ⟨empty⟩

instance : Inhabited (Dictionary α) := ⟨empty⟩

/-- The value under a name. -/
def get? (d : Dictionary α) (name : String) : Option α :=
  d.entries.lookup name

/-- The dictionary with `value` under `name`. -/
def insert (d : Dictionary α) (name : String) (value : α) : Dictionary α :=
  ⟨insertEntry name value d.entries, pairwise_insertEntry d.ordered⟩

/-- The dictionary of a list of entries, of which a later one overrides an earlier one. -/
def ofList (entries : List (String × α)) : Dictionary α :=
  entries.foldl (fun d entry => d.insert entry.1 entry.2) empty

/-- How many names have a value. -/
def size (d : Dictionary α) : Nat :=
  d.entries.length

/-- A lookup looks at the first entry and goes on behind it. -/
theorem lookup_cons_eq (other : String) (entry : String × α) (rest : List (String × α)) :
    (entry :: rest).lookup other = if other = entry.1 then some entry.2 else rest.lookup other := by
  obtain ⟨name, value⟩ := entry
  by_cases h : other = name
  · simp [h]
  · have hb : (other == name) = false := by simpa using h
    simp [List.lookup_cons, h, hb]

/-- What a lookup in entries finds after an insertion. -/
theorem lookup_insertEntry (name other : String) (value : α) (entries : List (String × α)) :
    (insertEntry name value entries).lookup other =
      if other = name then some value else entries.lookup other := by
  induction entries with
  | nil => rw [insertEntry, lookup_cons_eq]
  | cons first rest ih =>
    rw [lookup_cons_eq other first rest]
    unfold insertEntry
    split
    · rw [lookup_cons_eq, lookup_cons_eq]
    · split
      · next heq =>
        rw [lookup_cons_eq]
        by_cases h : other = name
        · simp [h]
        · simp [h, ← heq]
      · next hne =>
        rw [lookup_cons_eq, ih]
        by_cases h : other = first.1
        · simp [h, Ne.symm hne]
        · simp [h]

/-- A lookup in entries of increasing names finds exactly what the entries say. -/
theorem lookup_eq_some_iff {name : String} {value : α} {entries : List (String × α)}
    (h : entries.Pairwise fun a b => a.1 < b.1) :
    entries.lookup name = some value ↔ (name, value) ∈ entries := by
  induction entries with
  | nil => simp
  | cons first rest ih =>
    obtain ⟨hfirst, hrest⟩ := List.pairwise_cons.mp h
    rw [lookup_cons_eq, List.mem_cons]
    split
    · next heq =>
      subst heq
      have hnone : (first.1, value) ∉ rest := fun hmem =>
        absurd (hfirst (first.1, value) hmem) Std.lt_irrefl
      simp [hnone, Prod.ext_iff, eq_comm]
    · next hne => simp [ih hrest, Prod.ext_iff, hne]

/-- The value under a name is the one that its entry has. -/
theorem get?_eq_some_iff {d : Dictionary α} {name : String} {value : α} :
    d.get? name = some value ↔ (name, value) ∈ d.entries :=
  lookup_eq_some_iff d.ordered

/-- The empty dictionary has no values. -/
@[simp] theorem get?_empty (name : String) : (empty : Dictionary α).get? name = none := rfl

/-- A value is found under the name that it was inserted under, and no other value changes. -/
@[simp] theorem get?_insert (d : Dictionary α) (name other : String) (value : α) :
    (d.insert name value).get? other = if other = name then some value else d.get? other :=
  lookup_insertEntry name other value d.entries

/-- An entry whose name comes behind all others is inserted at the end. -/
theorem insertEntry_of_forall_lt {name : String} {value : α} {entries : List (String × α)}
    (h : ∀ entry ∈ entries, entry.1 < name) :
    insertEntry name value entries = entries ++ [(name, value)] := by
  induction entries with
  | nil => rfl
  | cons first rest ih =>
    have hfirst : first.1 < name := h first List.mem_cons_self
    have hne : ¬name = first.1 := fun heq => Std.lt_irrefl (heq ▸ hfirst)
    have hafter : ¬name < first.1 := fun hlt => Std.lt_irrefl (Std.lt_trans hlt hfirst)
    rw [insertEntry, if_neg hafter, if_neg hne,
      ih fun entry hentry => h entry (List.mem_cons_of_mem _ hentry), List.cons_append]

/-- Entries in increasing order behind those of a dictionary are inserted one behind another. -/
theorem entries_foldl_insert {d : Dictionary α} {more : List (String × α)}
    (h : (d.entries ++ more).Pairwise fun a b => a.1 < b.1) :
    (more.foldl (fun d entry => d.insert entry.1 entry.2) d).entries = d.entries ++ more := by
  induction more generalizing d with
  | nil => simp
  | cons first rest ih =>
    have hlast : ∀ entry ∈ d.entries, entry.1 < first.1 := fun entry hentry =>
      (List.pairwise_append.mp h).2.2 entry hentry first List.mem_cons_self
    have hinsert : (d.insert first.1 first.2).entries = d.entries ++ [first] :=
      insertEntry_of_forall_lt hlast
    rw [List.append_cons, ← hinsert] at h ⊢
    exact ih h

/-- Dictionaries with the same entries are equal. -/
theorem eq_of_entries {d e : Dictionary α} (h : d.entries = e.entries) : d = e := by
  cases d
  cases e
  cases h
  rfl

/-- A dictionary is the one of its entries. -/
theorem ofList_entries (d : Dictionary α) : ofList d.entries = d :=
  eq_of_entries (entries_foldl_insert d.ordered)

end Dictionary

end ApiDrift
