import ApiDrift.Json.Record
import Mathlib.Data.List.Nodup

/-!
# Records read from trees

The tree of a value has no fault, so what is read from it depends on the shape of the value alone.
A record is read from an object when the members have distinct names and give each field its value:
a member of the name of the field is read as that value, or there is no such member and the field
says what it is then. Neither the order of the members nor members that are not declared make a
difference. In any object a member may be replaced by one that its field reads alike, and left out
when its field reads it as what it is without the member.
-/

namespace ApiDrift.Json

/-- The members of the tree of an object. -/
def memberTrees (members : List (String × Value)) : List (Option String × Tree) :=
  members.map fun member => (some member.1, member.2.toTree)

@[simp] theorem memberTrees_cons (name : String) (written : Value)
    (members : List (String × Value)) :
    memberTrees ((name, written) :: members) =
      (some name, written.toTree) :: memberTrees members := rfl

/-- The text goes on behind the tree of a value. -/
theorem isWhole_toTree (value : Value) : value.toTree.isWhole = true := by
  cases value <;> simp [Value.toTree, Tree.isWhole]

/-- Items that are read from their trees are read in order. -/
theorem itemValues_map_toTree {source : Source} {items done : List Value}
    (h : ∀ item ∈ items, item.toTree.toValue source = .ok item) :
    itemValues source (items.map Value.toTree) done = .ok (done.reverse ++ items) := by
  induction items generalizing done with
  | nil => simp [itemValues]
  | cons first rest ih =>
    obtain ⟨hfirst, hrest⟩ := List.forall_mem_cons.mp h
    rw [List.map_cons, itemValues, hfirst]
    dsimp only
    rw [ih hrest, List.reverse_cons, List.append_assoc, List.singleton_append]

/-- Members whose values are read from their trees are read in order. -/
theorem memberValues_memberTrees {source : Source} {fields done : List (String × Value)}
    (h : ∀ field ∈ fields, field.2.toTree.toValue source = .ok field.2) :
    memberValues source (memberTrees fields) done = .ok (done.reverse ++ fields) := by
  induction fields generalizing done with
  | nil => simp [memberTrees, memberValues]
  | cons first rest ih =>
    obtain ⟨hfirst, hrest⟩ := List.forall_mem_cons.mp h
    rw [memberTrees_cons, memberValues, hfirst]
    dsimp only
    rw [ih hrest, List.reverse_cons, List.append_assoc, List.singleton_append]

/-- Whether the members of an object give a field a value: the member of its name is read as the
value, or there is no such member and the value is the one for that case. -/
def RecordField.Reads {α : Type} (field : RecordField α) (members : List (String × Value))
    (value : α) : Prop :=
  (∃ written, (field.name, written) ∈ members ∧ field.decoder.ofValue written = .ok value) ∨
    (field.name ∉ members.map Prod.fst ∧ field.whenMissing = some value)

namespace RecordFields

/-- The names of the declared fields. -/
def names : {δ τ : Type} → RecordFields δ τ → List String
  | _, _, .done => []
  | _, _, .cons field rest => field.name :: rest.names

/-- Whether the members of an object give the fields of a record their values. -/
def Reads (members : List (String × Value)) : {δ τ : Type} → RecordFields δ τ → τ → Prop
  | _, _, .done, _ => True
  | _, _, .cons field rest, (value, values) => field.Reads members value ∧ rest.Reads members values

variable {α δ τ : Type} {source : Source} {name : String} {tree : Tree}

/-- A member is one of the first field or else one of the others. -/
theorem put_cons (field : RecordField α) (rest : RecordFields δ τ) (slot : Option α) (others : δ) :
    (cons field rest).put source name tree (slot, others) =
      if field.name = name then
        match slot with
        | some _ => .error (.mismatch (.duplicateField name))
        | none => (field.decoder source tree).map fun value => some (some value, others)
      else
        (rest.put source name tree others).map fun draft? => draft?.map fun draft => (slot, draft) :=
  rfl

/-- A member of a name that is not declared is no part of a draft. -/
theorem put_of_notMem_names {fields : RecordFields δ τ} {draft : δ} (h : name ∉ fields.names) :
    fields.put source name tree draft = .ok none := by
  induction fields with
  | done => rfl
  | cons field rest ih =>
    obtain ⟨hfield, hrest⟩ := not_or.mp (mt List.mem_cons.mpr h)
    rw [put_cons, if_neg (Ne.symm hfield), ih hrest]
    rfl

/-- A whole member of a name that is not declared is passed over. -/
theorem putMember_of_notMem_names {fields : RecordFields δ τ} {draft : δ} (h : name ∉ fields.names)
    (hwhole : tree.isWhole = true) : fields.putMember source draft (some name, tree) = .ok draft := by
  rw [putMember, put_of_notMem_names h, hwhole]
  rfl

/-- A member of another name than the first field is one of the other fields. -/
theorem putMember_cons_of_ne {field : RecordField α} {rest : RecordFields δ τ} {slot : Option α}
    {others : δ} (h : field.name ≠ name) :
    (cons field rest).putMember source (slot, others) (some name, tree) =
      (rest.putMember source others (some name, tree)).map fun after => (slot, after) := by
  rw [putMember, putMember, put_cons, if_neg h]
  rcases rest.put source name tree others with failure | (_ | after)
  · rfl
  · cases tree.isWhole <;> rfl
  · rfl

/-- The member of the first field is read into its empty slot. -/
theorem putMember_cons_self {field : RecordField α} {rest : RecordFields δ τ} {others : δ} :
    (cons field rest).putMember source (none, others) (some field.name, tree) =
      (field.decoder source tree).map fun value => (some value, others) := by
  rw [putMember, put_cons, if_pos rfl]
  cases field.decoder source tree <;> rfl

/-- Members of which none is declared leave a draft as it is. -/
theorem foldlM_putMember_done (members : List (String × Value)) :
    (memberTrees members).foldlM (done.putMember .value) () = .ok () := by
  induction members with
  | nil => rfl
  | cons first rest ih =>
    rw [memberTrees_cons, List.foldlM_cons,
      putMember_of_notMem_names List.not_mem_nil (isWhole_toTree first.2)]
    exact ih

/-- Members of distinct names are read into the first field and into the other ones apart. -/
theorem foldlM_putMember_cons {field : RecordField α} {rest : RecordFields δ τ}
    {members : List (String × Value)} {slot : Option α} {others after : δ} {value : α}
    (hfield : field.name ∉ rest.names) (hmembers : (members.map Prod.fst).Nodup)
    (hslot : field.name ∈ members.map Prod.fst → slot = none)
    (hread : ∀ written, (field.name, written) ∈ members →
      field.decoder.ofValue written = .ok value)
    (hrest : (memberTrees members).foldlM (rest.putMember .value) others = .ok after) :
    (memberTrees members).foldlM ((cons field rest).putMember .value) (slot, others) =
      .ok (if field.name ∈ members.map Prod.fst then some value else slot, after) := by
  induction members generalizing slot others with
  | nil => exact congrArg (Except.map fun after => (slot, after)) hrest
  | cons first members ih =>
    obtain ⟨name, written⟩ := first
    obtain ⟨hfirst, hdistinct⟩ := List.nodup_cons.mp hmembers
    rw [memberTrees_cons, List.foldlM_cons] at hrest ⊢
    by_cases hname : field.name = name
    · subst hname
      rw [putMember_of_notMem_names hfield (isWhole_toTree written)] at hrest
      have hvalue : field.decoder .value written.toTree = .ok value :=
        hread written List.mem_cons_self
      rw [hslot List.mem_cons_self, putMember_cons_self, hvalue]
      refine (ih hdistinct (fun hmem => absurd hmem hfirst) (fun other hother => ?_) hrest).trans ?_
      · exact hread other (List.mem_cons_of_mem _ hother)
      · rw [ite_self, if_pos (by simp)]
    · rw [putMember_cons_of_ne hname]
      cases hput : rest.putMember .value others (some name, written.toTree) with
      | error failure =>
        rw [hput] at hrest
        cases hrest
      | ok between =>
        rw [hput] at hrest
        refine (ih hdistinct (fun hmem => hslot (List.mem_cons_of_mem _ hmem))
          (fun other hother => hread other (List.mem_cons_of_mem _ hother)) hrest).trans ?_
        simp only [List.map_cons, List.mem_cons, hname, false_or]

/-- Members of distinct names that give the fields of a record their values are read as a draft with
these values. -/
theorem exists_draft {fields : RecordFields δ τ} {members : List (String × Value)} {values : τ}
    (hnames : fields.names.Nodup) (hmembers : (members.map Prod.fst).Nodup)
    (h : fields.Reads members values) :
    ∃ draft, (memberTrees members).foldlM (fields.putMember .value) fields.start = .ok draft ∧
      fields.finish draft = .ok values := by
  induction fields with
  | done => exact ⟨(), foldlM_putMember_done members, rfl⟩
  | cons field rest ih =>
    obtain ⟨value, values⟩ := values
    obtain ⟨hfield, hnames⟩ := List.nodup_cons.mp hnames
    obtain ⟨hread, hreads⟩ := h
    obtain ⟨draft, hfold, hfinish⟩ := ih hnames hreads
    have hfilled : ∀ written, (field.name, written) ∈ members →
        field.decoder.ofValue written = .ok value := by
      intro written hwritten
      rcases hread with ⟨read, hmem, hvalue⟩ | ⟨hmissing, -⟩
      · have hsame := List.inj_on_of_nodup_map hmembers hwritten hmem rfl
        exact (Prod.mk.inj hsame).2 ▸ hvalue
      · exact absurd (List.mem_map_of_mem hwritten) hmissing
    refine ⟨_, foldlM_putMember_cons hfield hmembers (fun _ => rfl) hfilled hfold, ?_⟩
    rcases hread with ⟨read, hmem, -⟩ | ⟨hmissing, hvalue⟩
    · rw [if_pos (List.mem_map_of_mem hmem), finish, hfinish]
      rfl
    · rw [if_neg hmissing, finish, hfinish, hvalue]
      rfl

/-- Whether each field of a name reads two trees alike. -/
def AgreeOn (source : Source) (name : String) (tree other : Tree) :
    {δ τ : Type} → RecordFields δ τ → Prop
  | _, _, .done => True
  | _, _, .cons field rest =>
    (field.name = name → field.decoder source tree = field.decoder source other) ∧
      rest.AgreeOn source name tree other

/-- Members that the fields of their name read alike make the same difference to a draft. -/
theorem put_congr {fields : RecordFields δ τ} {draft : δ} {other : Tree}
    (h : fields.AgreeOn source name tree other) :
    fields.put source name tree draft = fields.put source name other draft := by
  induction fields with
  | done => rfl
  | cons field rest ih =>
    obtain ⟨slot, others⟩ := draft
    rw [put_cons, put_cons, ih h.2]
    split
    · next hname => rw [h.1 hname]
    · rfl

/-- Members behind whose values the text goes on, and that the fields of their name read alike, make
the same difference to a draft. -/
theorem putMember_congr {fields : RecordFields δ τ} {draft : δ} {other : Tree}
    (h : fields.AgreeOn source name tree other) (hwhole : tree.isWhole = other.isWhole) :
    fields.putMember source draft (some name, tree) =
      fields.putMember source draft (some name, other) := by
  rw [putMember, putMember, put_congr h, hwhole]

/-- Whether no field of a name has a value in a draft. -/
def Vacant (name : String) : {δ τ : Type} → RecordFields δ τ → δ → Prop
  | _, _, .done, _ => True
  | _, _, .cons field rest, (slot, others) =>
    (field.name = name → slot = none) ∧ rest.Vacant name others

/-- The draft before any field was read has no values. -/
theorem vacant_start (fields : RecordFields δ τ) : fields.Vacant name fields.start := by
  induction fields with
  | done => trivial
  | cons field rest ih => exact ⟨fun _ => rfl, ih⟩

/-- A member of another name gives no value to the fields of a name. -/
theorem Vacant.put {fields : RecordFields δ τ} {draft after : δ} {other : String}
    (h : fields.Vacant name draft) (hother : other ≠ name)
    (hput : fields.put source other tree draft = .ok (some after)) : fields.Vacant name after := by
  induction fields with
  | done => cases hput
  | cons field rest ih =>
    obtain ⟨slot, others⟩ := draft
    rw [put_cons] at hput
    split at hput
    · next hname =>
      cases slot with
      | some value => cases hput
      | none =>
        cases hread : field.decoder source tree with
        | error failure =>
          rw [hread] at hput
          cases hput
        | ok value =>
          rw [hread] at hput
          cases hput
          exact ⟨fun heq => absurd (hname.symm.trans heq) hother, h.2⟩
    · cases hrest : rest.put source other tree others with
      | error failure =>
        rw [hrest] at hput
        cases hput
      | ok draft? =>
        rw [hrest] at hput
        cases draft? with
        | none => cases hput
        | some draft =>
          cases hput
          exact ⟨h.1, ih h.2 hrest⟩

/-- A member is passed over or is put into a draft. -/
theorem putMember_eq_ok {fields : RecordFields δ τ} {draft after : δ}
    {member : Option String × Tree} (h : fields.putMember source draft member = .ok after) :
    after = draft ∨
      ∃ other, member.1 = some other ∧
        fields.put source other member.2 draft = .ok (some after) := by
  obtain ⟨other?, tree⟩ := member
  cases other? with
  | none => cases h
  | some other =>
    rw [putMember] at h
    cases hput : fields.put source other tree draft with
    | error failure =>
      rw [hput] at h
      cases h
    | ok draft? =>
      rw [hput] at h
      cases draft? with
      | none =>
        refine .inl ?_
        cases hwhole : tree.isWhole with
        | true =>
          rw [hwhole] at h
          cases h
          rfl
        | false =>
          rw [hwhole] at h
          cases h
      | some draft =>
        cases h
        exact .inr ⟨other, rfl, hput⟩

/-- Members of other names give no value to the fields of a name. -/
theorem Vacant.foldlM {fields : RecordFields δ τ} {draft after : δ}
    {members : List (Option String × Tree)} (h : fields.Vacant name draft)
    (hmembers : some name ∉ members.map Prod.fst)
    (hfold : members.foldlM (fields.putMember source) draft = .ok after) :
    fields.Vacant name after := by
  induction members generalizing draft with
  | nil =>
    cases hfold
    exact h
  | cons first members ih =>
    obtain ⟨hfirst, hrest⟩ := not_or.mp (mt List.mem_cons.mpr hmembers)
    rw [List.foldlM_cons] at hfold
    cases hput : fields.putMember source draft first with
    | error failure =>
      rw [hput] at hfold
      cases hfold
    | ok between =>
      rw [hput] at hfold
      rcases putMember_eq_ok hput with rfl | ⟨other, hother, hput⟩
      · exact ih h hrest hfold
      · have hne : other ≠ name := fun heq => hfirst (hother.trans (congrArg some heq)).symm
        exact ih (h.put hne hput) hrest hfold

/-- Whether each field of a name reads a tree as what it is in the absence of a member. -/
def ReadsAsMissing (source : Source) (name : String) (tree : Tree) :
    {δ τ : Type} → RecordFields δ τ → Prop
  | _, _, .done => True
  | _, _, .cons field rest =>
    (field.name = name →
      ∃ value, field.whenMissing = some value ∧ field.decoder source tree = .ok value) ∧
      rest.ReadsAsMissing source name tree

/-- A member that is read as what its field is in its absence makes no difference in the end. -/
theorem exists_put_of_readsAsMissing {fields : RecordFields δ τ} {draft : δ}
    (hvacant : fields.Vacant name draft) (h : fields.ReadsAsMissing source name tree) :
    ∃ draft?, fields.put source name tree draft = .ok draft? ∧
      fields.finish (draft?.getD draft) = fields.finish draft := by
  induction fields with
  | done => exact ⟨none, rfl, rfl⟩
  | cons field rest ih =>
    obtain ⟨slot, others⟩ := draft
    rw [put_cons]
    split
    · next hname =>
      obtain ⟨value, hmissing, hread⟩ := h.1 hname
      obtain rfl : slot = none := hvacant.1 hname
      rw [hread]
      refine ⟨_, rfl, ?_⟩
      rw [Option.getD_some, finish, finish, hmissing]
      rfl
    · obtain ⟨draft?, hput, hfinish⟩ := ih hvacant.2 h.2
      rw [hput]
      refine ⟨_, rfl, ?_⟩
      cases draft? with
      | none => rfl
      | some after =>
        change rest.finish after = _ at hfinish
        change (cons field rest).finish (slot, after) = _
        rw [finish, finish, hfinish]

/-- A whole member that is read as what its field is in its absence makes no difference. -/
theorem exists_putMember_of_readsAsMissing {fields : RecordFields δ τ} {draft : δ}
    (hvacant : fields.Vacant name draft) (h : fields.ReadsAsMissing source name tree)
    (hwhole : tree.isWhole = true) :
    ∃ after, fields.putMember source draft (some name, tree) = .ok after ∧
      fields.finish after = fields.finish draft := by
  obtain ⟨draft?, hput, hfinish⟩ := exists_put_of_readsAsMissing hvacant h
  refine ⟨draft?.getD draft, ?_, hfinish⟩
  rw [putMember, hput, hwhole]
  cases draft? <;> rfl

end RecordFields

section Members

variable {δ τ α : Type} {source : Source} {record name : String} {fields : RecordFields δ τ}
  {build : τ → α} {tree other : Tree}

/-- A record is read from members in order. -/
theorem Decoder.record_object_of_enter {inner : Source} (henter : source.enter = .ok inner)
    (members : List (Option String × Tree)) (closed : Bool) :
    Decoder.record record fields build source (.object members closed) = (do
      let draft ← members.foldlM (fields.putMember inner) fields.start
      ensureClosed closed
      let values ← (fields.finish draft).mapError .mismatch
      return build values) := by
  rw [Decoder.record, henter]
  rfl

/-- A member may be written in any way that its field reads alike. -/
theorem Decoder.record_congr
    (h : ∀ inner, source.enter = .ok inner → fields.AgreeOn inner name tree other)
    (hwhole : tree.isWhole = other.isWhole) (before after : List (Option String × Tree))
    (closed : Bool) :
    Decoder.record record fields build source
        (.object (before ++ (some name, tree) :: after) closed) =
      Decoder.record record fields build source
        (.object (before ++ (some name, other) :: after) closed) := by
  cases henter : source.enter with
  | error failure =>
    rw [Decoder.record, Decoder.record, henter]
    rfl
  | ok inner =>
    rw [record_object_of_enter henter, record_object_of_enter henter]
    simp only [List.foldlM_append, List.foldlM_cons,
      RecordFields.putMember_congr (h inner henter) hwhole]

/-- A member that is read as what its field is in its absence may be left out. -/
theorem Decoder.record_concat_missing
    (h : ∀ inner, source.enter = .ok inner → fields.ReadsAsMissing inner name tree)
    (hwhole : tree.isWhole = true) {members : List (Option String × Tree)}
    (hmembers : some name ∉ members.map Prod.fst) (closed : Bool) :
    Decoder.record record fields build source (.object (members ++ [(some name, tree)]) closed) =
      Decoder.record record fields build source (.object members closed) := by
  cases henter : source.enter with
  | error failure =>
    rw [Decoder.record, Decoder.record, henter]
    rfl
  | ok inner =>
    rw [record_object_of_enter henter, record_object_of_enter henter, List.foldlM_append]
    cases hfold : members.foldlM (fields.putMember inner) fields.start with
    | error failure => rfl
    | ok draft =>
      have hvacant := fields.vacant_start.foldlM hmembers hfold
      obtain ⟨after, hput, hfinish⟩ :=
        RecordFields.exists_putMember_of_readsAsMissing hvacant (h inner henter) hwhole
      have hlast : [(some name, tree)].foldlM (fields.putMember inner) draft = .ok after := by
        rw [List.foldlM_cons, hput]
        rfl
      change ([(some name, tree)].foldlM (fields.putMember inner) draft).bind _ = _
      rw [hlast]
      change (ensureClosed closed).bind _ = (ensureClosed closed).bind _
      rw [hfinish]

end Members

/-- A record is read from an object whose members have distinct names and give its fields their
values. -/
theorem Decoder.ofValue_record {δ τ α : Type} {name : String} {fields : RecordFields δ τ}
    {build : τ → α} {members : List (String × Value)} (values : τ) (hnames : fields.names.Nodup)
    (hmembers : (members.map Prod.fst).Nodup) (h : fields.Reads members values) :
    (Decoder.record name fields build).ofValue (.object members) = .ok (build values) := by
  obtain ⟨draft, hfold, hfinish⟩ := fields.exists_draft hnames hmembers h
  rw [ofValue, Value.toTree]
  change ((memberTrees members).foldlM (fields.putMember .value) fields.start).bind _ = _
  rw [hfold]
  change ((fields.finish draft).mapError Failure.mismatch).bind _ = _
  rw [hfinish]
  rfl

end ApiDrift.Json
