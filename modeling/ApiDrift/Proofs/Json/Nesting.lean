import ApiDrift.Proofs.Json.Record

/-!
# How deep values nest

A text may nest arrays and objects up to a limit, and a value without one. A value is read from its
tree as it is when its source admits its nesting, and else the reading stops where the limit is
passed.
-/

namespace ApiDrift.Json

/-- The arrays and objects. -/
def Value.IsNested : Value → Prop
  | .array _ | .object _ => True
  | .null | .boolean _ | .number _ | .string _ => False

/-- How many arrays and objects a value nests. -/
def Value.nesting : Value → Nat
  | .array items => (items.map fun item => item.nesting).foldr max 0 + 1
  | .object fields => (fields.map fun field => field.2.nesting).foldr max 0 + 1
  | .null | .boolean _ | .number _ | .string _ => 0
decreasing_by
  · exact sizeOf_lt_array ‹_›
  · exact sizeOf_lt_object ‹_›

/-- Whether so many arrays and objects may be entered. -/
def Source.Admits : Source → Nat → Prop
  | .text levels, depth => depth ≤ levels
  | .value, _ => True

/-- A source admits the greatest of several depths when it admits them all. -/
theorem Source.admits_foldr_max_iff (source : Source) (depths : List Nat) :
    source.Admits (depths.foldr max 0) ↔ ∀ depth ∈ depths, source.Admits depth := by
  cases source with
  | value => simp [Admits]
  | text levels =>
    induction depths with
    | nil => simp [Admits]
    | cons depth depths ih =>
      rw [List.foldr_cons, List.forall_mem_cons, ← ih]
      exact Nat.max_le

/-- A source is entered when it admits one more level, and inside it admits one level less. -/
theorem Source.enter_cases (source : Source) :
    (∃ inner, source.enter = .ok inner ∧
      ∀ depth, source.Admits (depth + 1) ↔ inner.Admits depth) ∨
    source.enter = .error .malformed ∧ ∀ depth, ¬source.Admits (depth + 1) := by
  rcases source with (_ | levels) | _
  · exact .inr ⟨rfl, fun depth => Nat.not_succ_le_zero depth⟩
  · exact .inl ⟨.text levels, rfl, fun depth => Nat.succ_le_succ_iff⟩
  · exact .inl ⟨.value, rfl, fun depth => Iff.rfl⟩

section Entered

variable {source inner : Source} (hadmits : ∀ depth, source.Admits (depth + 1) ↔ inner.Admits depth)

include hadmits

/-- The nesting of an array is admitted when that of its items is admitted inside. -/
theorem Source.admits_array_iff (items : List Value) :
    source.Admits (Value.array items).nesting ↔ ∀ item ∈ items, inner.Admits item.nesting := by
  rw [Value.nesting, hadmits, admits_foldr_max_iff, List.forall_mem_map]

/-- The nesting of an object is admitted when that of its values is admitted inside. -/
theorem Source.admits_object_iff (fields : List (String × Value)) :
    source.Admits (Value.object fields).nesting ↔
      ∀ field ∈ fields, inner.Admits field.2.nesting := by
  rw [Value.nesting, hadmits, admits_foldr_max_iff, List.forall_mem_map]

end Entered

/-- A value is read from its tree as it is when the source admits its nesting. -/
theorem toValue_toTree_of_admits {source : Source} {value : Value}
    (h : source.Admits value.nesting) : value.toTree.toValue source = .ok value := by
  induction value using Value.toTree.induct generalizing source with
  | case5 items ih =>
    rw [Value.toTree, Tree.toValue]
    rcases source.enter_cases with ⟨inner, henter, hadmits⟩ | ⟨-, hnone⟩
    · rw [Source.admits_array_iff hadmits] at h
      rw [henter]
      change (itemValues inner (items.map Value.toTree) []).bind _ = _
      rw [itemValues_map_toTree fun item hitem => ih item hitem (h item hitem)]
      rfl
    · rw [Value.nesting] at h
      exact absurd h (hnone _)
  | case6 fields ih =>
    rw [Value.toTree, Tree.toValue]
    rcases source.enter_cases with ⟨inner, henter, hadmits⟩ | ⟨-, hnone⟩
    · rw [Source.admits_object_iff hadmits] at h
      rw [henter]
      change (memberValues inner (memberTrees fields) []).bind _ = _
      rw [memberValues_memberTrees fun field hfield => ih field hfield (h field hfield)]
      rfl
    · rw [Value.nesting] at h
      exact absurd h (hnone _)
  | _ => simp [Value.toTree, Tree.toValue]

/-- A value is read from its tree as it is, however deep it nests. -/
theorem toValue_toTree (value : Value) : value.toTree.toValue .value = .ok value :=
  toValue_toTree_of_admits trivial

/-- The reading of items stops at one that cannot be read. -/
theorem itemValues_malformed {source : Source} {items done : List Value} {bad : Value}
    (hbad : bad ∈ items) (hfault : bad.toTree.toValue source = .error .malformed)
    (h : ∀ item ∈ items, item.toTree.toValue source = .ok item ∨
      item.toTree.toValue source = .error .malformed) :
    itemValues source (items.map Value.toTree) done = .error .malformed := by
  induction items generalizing done with
  | nil => cases hbad
  | cons first rest ih =>
    obtain ⟨hfirst, hrest⟩ := List.forall_mem_cons.mp h
    rw [List.map_cons, itemValues]
    rcases hfirst with hread | hstop
    · rw [hread]
      rcases List.mem_cons.mp hbad with rfl | hbad
      · rw [hread] at hfault
        cases hfault
      · exact ih hbad hrest
    · rw [hstop]

/-- The reading of members stops at one whose value cannot be read. -/
theorem memberValues_malformed {source : Source} {fields done : List (String × Value)}
    {bad : String × Value} (hbad : bad ∈ fields)
    (hfault : bad.2.toTree.toValue source = .error .malformed)
    (h : ∀ field ∈ fields, field.2.toTree.toValue source = .ok field.2 ∨
      field.2.toTree.toValue source = .error .malformed) :
    memberValues source (memberTrees fields) done = .error .malformed := by
  induction fields generalizing done with
  | nil => cases hbad
  | cons first rest ih =>
    obtain ⟨hfirst, hrest⟩ := List.forall_mem_cons.mp h
    rw [memberTrees_cons, memberValues]
    rcases hfirst with hread | hstop
    · rw [hread]
      rcases List.mem_cons.mp hbad with rfl | hbad
      · rw [hread] at hfault
        cases hfault
      · exact ih hbad hrest
    · rw [hstop]

/-- A value whose nesting the source does not admit cannot be read. -/
theorem toValue_toTree_malformed {source : Source} {value : Value}
    (h : ¬source.Admits value.nesting) : value.toTree.toValue source = .error .malformed := by
  have hread : ∀ {inner : Source} {part : Value}, (¬inner.Admits part.nesting →
      part.toTree.toValue inner = .error .malformed) →
      part.toTree.toValue inner = .ok part ∨ part.toTree.toValue inner = .error .malformed :=
    fun hfault => (em _).imp toValue_toTree_of_admits hfault
  induction value using Value.toTree.induct generalizing source with
  | case5 items ih =>
    rw [Value.toTree, Tree.toValue]
    rcases source.enter_cases with ⟨inner, henter, hadmits⟩ | ⟨henter, -⟩
    · rw [Source.admits_array_iff hadmits] at h
      obtain ⟨bad, hbad, hdeep⟩ := not_forall₂.mp h
      rw [henter]
      change (itemValues inner (items.map Value.toTree) []).bind _ = _
      rw [itemValues_malformed hbad (ih bad hbad hdeep) fun item hitem => hread (ih item hitem)]
      rfl
    · rw [henter]
      rfl
  | case6 fields ih =>
    rw [Value.toTree, Tree.toValue]
    rcases source.enter_cases with ⟨inner, henter, hadmits⟩ | ⟨henter, -⟩
    · rw [Source.admits_object_iff hadmits] at h
      obtain ⟨bad, hbad, hdeep⟩ := not_forall₂.mp h
      rw [henter]
      change (memberValues inner (memberTrees fields) []).bind _ = _
      rw [memberValues_malformed hbad (ih bad hbad hdeep) fun field hfield =>
        hread (ih field hfield)]
      rfl
    · rw [henter]
      rfl
  | _ =>
    refine absurd ?_ h
    cases source <;> simp [Source.Admits, Value.nesting]

end ApiDrift.Json
