import ApiDrift.Proofs.Wire.RoundTrip
import Mathlib.Data.List.Induction

/-!
# The spellings of a section

The bindings of a section are written as an object or as a list of pairs. Either way the last value
of each name is kept, so that both spellings of the same bindings, in the same place of a request,
are read as the same request. A missing section and `null` are spellings without bindings.

A list of pairs nests one level deeper than an object, so there are bindings whose pairs a text
cannot hold although their object still fits.
-/

namespace ApiDrift

/-- The value of the last entry of a name. -/
def lastValue? {α : Type} (entries : List (String × α)) (name : String) : Option α :=
  entries.reverse.lookup name

/-- The last of some entries with images of values has the image of the last value. -/
theorem lastValue?_map {α β : Type} (f : α → β) (entries : List (String × α)) (name : String) :
    lastValue? (entries.map fun entry => (entry.1, f entry.2)) name =
      (lastValue? entries name).map f := by
  unfold lastValue?
  rw [← List.map_reverse]
  induction entries.reverse with
  | nil => rfl
  | cons first rest ih =>
    rw [List.map_cons, Dictionary.lookup_cons_eq, Dictionary.lookup_cons_eq, ih]
    split <;> rfl

namespace Dictionary

variable {α β : Type}

/-- The dictionary of a list of entries has the last value of each name. -/
theorem get?_ofList (entries : List (String × α)) (name : String) :
    (ofList entries).get? name = lastValue? entries name := by
  induction entries using List.reverseRecOn with
  | nil => rfl
  | append_singleton entries last ih =>
    have hofList : ofList (entries ++ [last]) = (ofList entries).insert last.1 last.2 := by
      rw [ofList, List.foldl_concat]
      rfl
    rw [hofList, get?_insert, ih, lastValue?, lastValue?, List.reverse_concat, lookup_cons_eq]

/-- The dictionary of the values that have an image. -/
def filterMapValues (f : α → Option β) (d : Dictionary α) : Dictionary β where
  entries := d.entries.filterMap fun entry => (f entry.2).map fun image => (entry.1, image)
  ordered := by
    refine d.ordered.filterMap _ fun first second hlt image himage other hother => ?_
    obtain ⟨_, -, rfl⟩ := Option.map_eq_some_iff.mp himage
    obtain ⟨_, -, rfl⟩ := Option.map_eq_some_iff.mp hother
    exact hlt

/-- Under each name stands the image of its value. -/
theorem get?_filterMapValues (f : α → Option β) (d : Dictionary α) (name : String) :
    (d.filterMapValues f).get? name = (d.get? name).bind f := by
  refine Option.ext fun image => ?_
  rw [get?_eq_some_iff, Option.bind_eq_some_iff]
  simp only [filterMapValues, List.mem_filterMap, get?_eq_some_iff]
  constructor
  · rintro ⟨⟨other, value⟩, hmem, himage⟩
    obtain ⟨_, hvalue, heq⟩ := Option.map_eq_some_iff.mp himage
    obtain ⟨rfl, rfl⟩ := Prod.mk.inj heq
    exact ⟨value, hmem, hvalue⟩
  · rintro ⟨value, hmem, hvalue⟩
    exact ⟨(name, value), hmem, by rw [hvalue]; rfl⟩

end Dictionary

namespace Wire

open Json

/-- A binding as a pair of a name and a value. -/
def ofBinding (binding : String × Value) : Value :=
  .object [("name", .string binding.1), ("value", binding.2)]

/-- The ways in which the bindings of a section are written. -/
inductive Spelled : List (String × Value) → Value → Prop
  /-- Bindings are the members of an object. -/
  | object (bound : List (String × Value)) : Spelled bound (.object bound)
  /-- Bindings are pairs in a list. -/
  | pairs (bound : List (String × Value)) : Spelled bound (.array (bound.map ofBinding))
  /-- Without bindings there may be no section. -/
  | null : Spelled [] .null

/-- A pair is read as its binding. -/
theorem ofValue_pair (binding : String × Value) : pair.ofValue (ofBinding binding) = .ok binding :=
  Decoder.ofValue_record (binding.1, binding.2, ()) (by decide) (by simp)
    ⟨RecordField.reads_required (by simp) (Decoder.ofValue_string _),
      RecordField.reads_required (by simp) (toValue_toTree binding.2), trivial⟩

variable {source inner : Source} {bound : List (String × Value)} {written other : Value}

/-- The bindings of a section are found in whichever way they are written. -/
theorem bindings_of_spelled (h : Spelled bound written) : bindings written = .ok bound := by
  cases h with
  | object => rfl
  | pairs =>
    have hpairs : (bound.map ofBinding).mapM (fun item => pair.ofValue item) = .ok bound := by
      rw [List.mapM_map]
      exact (mapM_eq_ok fun binding _ => ofValue_pair binding).trans
        (congrArg Except.ok bound.map_id)
    rw [bindings, hpairs]
    rfl
  | null => rfl

/-- The values of a section. -/
def sectionValues (source : Source) (bound : List (String × Value)) : Dictionary Value :=
  Dictionary.ofList (bound.map fun binding => (binding.1, kept source binding.2))

/-- Under each name stands the last value that is bound to it. -/
theorem get?_sectionValues (source : Source) (bound : List (String × Value)) (name : String) :
    (sectionValues source bound).get? name = (lastValue? bound name).map (kept source) := by
  rw [sectionValues, Dictionary.get?_ofList, lastValue?_map]

/-- A section of values is read in whichever way its bindings are written. -/
theorem valueSection_of_spelled (h : Spelled bound written)
    (hadmits : source.Admits written.nesting) :
    valueSection source written.toTree = .ok (sectionValues source bound) := by
  change (written.toTree.toValue source).bind _ = _
  rw [toValue_toTree_of_admits hadmits]
  change ((bindings written).mapError Failure.mismatch).bind _ = _
  rw [bindings_of_spelled h]
  rfl

/-- The text of a value that is neither `null` nor nested. -/
def plainText? : Value → Option String
  | .string value => some value
  | .boolean value => some (booleanText value)
  | .number value => some value.text
  | .null | .array _ | .object _ => none

/-- A value that is not nested has a text, unless it is `null`. -/
theorem scalarText?_of_not_isNested {value : Value} (h : ¬value.IsNested) (name : String) :
    scalarText? name value = .ok (plainText? value) := by
  cases value with
  | array _ | object _ => exact absurd trivial h
  | null | boolean _ | number _ | string _ => rfl

/-- A nested value is refused under its name. -/
theorem scalarText?_of_isNested {value : Value} (h : value.IsNested) (name : String) :
    scalarText? name value = .error (.notScalar name) := by
  cases value with
  | array _ | object _ => rfl
  | null | boolean _ | number _ | string _ => exact h.elim

/-- Entries without nested values have the texts of those that are not `null`. -/
theorem scalarTexts_eq_ok {entries : List (String × Value)}
    (h : ∀ entry ∈ entries, ¬entry.2.IsNested) :
    scalarTexts entries = .ok (entries.filterMap fun entry =>
      (plainText? entry.2).map fun text => (entry.1, text)) := by
  have htexts : (entries.mapM fun entry => (do
        let text? ← scalarText? entry.1 entry.2
        return text?.map fun text => (entry.1, text) : Except Mismatch _)) =
      .ok (entries.map fun entry => (plainText? entry.2).map fun text => (entry.1, text)) :=
    mapM_eq_ok fun entry hentry => by
      rw [scalarText?_of_not_isNested (h entry hentry)]
      rfl
  change Except.bind _ _ = _
  rw [htexts]
  exact congrArg Except.ok (List.filterMap_map ..)

/-- A fault behind an entry without a nested value is the fault of all. -/
theorem scalarTexts_cons_eq_error {first : String × Value} {rest : List (String × Value)}
    {mismatch : Mismatch} (hfirst : ¬first.2.IsNested) (h : scalarTexts rest = .error mismatch) :
    scalarTexts (first :: rest) = .error mismatch := by
  rw [scalarTexts] at h
  rw [scalarTexts, List.mapM_cons, scalarText?_of_not_isNested hfirst]
  cases hrest : rest.mapM (fun entry => (do
      let text? ← scalarText? entry.1 entry.2
      return text?.map fun text => (entry.1, text) : Except Mismatch _)) with
  | error fault =>
    rw [hrest] at h
    cases h
    rfl
  | ok texts =>
    rw [hrest] at h
    cases h

/-- Entries with a nested value are refused under the name of one. -/
theorem scalarTexts_eq_error {entries : List (String × Value)}
    (h : ∃ entry ∈ entries, entry.2.IsNested) :
    ∃ entry ∈ entries, entry.2.IsNested ∧ scalarTexts entries = .error (.notScalar entry.1) := by
  induction entries with
  | nil =>
    obtain ⟨entry, hentry, -⟩ := h
    cases hentry
  | cons first rest ih =>
    by_cases hfirst : first.2.IsNested
    · refine ⟨first, List.mem_cons_self, hfirst, ?_⟩
      rw [scalarTexts, List.mapM_cons, scalarText?_of_isNested hfirst]
      rfl
    · obtain ⟨entry, hentry, hnested⟩ := h
      rcases List.mem_cons.mp hentry with rfl | hentry
      · exact absurd hnested hfirst
      obtain ⟨bad, hbad, hnested, herror⟩ := ih ⟨entry, hentry, hnested⟩
      exact ⟨bad, List.mem_cons_of_mem _ hbad, hnested, scalarTexts_cons_eq_error hfirst herror⟩

/-- What a section keeps of a value is nested when the value is, and has the same text. -/
theorem isNested_kept (source : Source) (value : Value) :
    (kept source value).IsNested ↔ value.IsNested := by
  cases source <;> cases value <;> simp [kept, Value.canonical, Value.IsNested]

/-- What a section keeps of a value has the text of the value. -/
theorem plainText?_kept (source : Source) (value : Value) :
    plainText? (kept source value) = plainText? value := by
  cases source <;> cases value <;> simp [kept, Value.canonical, plainText?]

/-- The entries of a section are the last values that are bound to names. -/
theorem mem_sectionValues_iff {entry : String × Value} :
    entry ∈ (sectionValues source bound).entries ↔
      ∃ last, lastValue? bound entry.1 = some last ∧ kept source last = entry.2 := by
  rw [← Prod.eta entry, ← Dictionary.get?_eq_some_iff, get?_sectionValues, Option.map_eq_some_iff]

/-- A section of texts is read from its values. -/
theorem textSection_of_spelled (h : Spelled bound written)
    (hadmits : source.Admits written.nesting) :
    textSection source written.toTree =
      ((scalarTexts (sectionValues source bound).entries).mapError Failure.mismatch).map
        Dictionary.ofList := by
  change (valueSection source written.toTree).bind _ = _
  rw [valueSection_of_spelled h hadmits]
  rfl

/-- A section of texts without nested values has, under each name, the text of the last value that
is bound to it. -/
theorem textSection_eq_ok (h : Spelled bound written) (hadmits : source.Admits written.nesting)
    (hplain : ∀ name value, lastValue? bound name = some value → ¬value.IsNested) :
    ∃ texts, textSection source written.toTree = .ok texts ∧
      ∀ name, texts.get? name = (lastValue? bound name).bind plainText? := by
  have hentries : ∀ entry ∈ (sectionValues source bound).entries, ¬entry.2.IsNested := by
    intro entry hentry hnested
    obtain ⟨last, hlast, hkept⟩ := mem_sectionValues_iff.mp hentry
    exact hplain entry.1 last hlast ((isNested_kept source last).mp (hkept ▸ hnested))
  refine ⟨(sectionValues source bound).filterMapValues plainText?, ?_, fun name => ?_⟩
  · rw [textSection_of_spelled h hadmits, scalarTexts_eq_ok hentries]
    exact congrArg Except.ok (Dictionary.ofList_entries (Dictionary.filterMapValues plainText? _))
  · rw [Dictionary.get?_filterMapValues, get?_sectionValues, Option.bind_map]
    exact congrArg (lastValue? bound name).bind (funext (plainText?_kept source))

/-- A section of texts is refused under a name to which a nested value is bound last. -/
theorem textSection_eq_error (h : Spelled bound written) (hadmits : source.Admits written.nesting)
    (hnested : ∃ name value, lastValue? bound name = some value ∧ value.IsNested) :
    ∃ name value, lastValue? bound name = some value ∧ value.IsNested ∧
      textSection source written.toTree = .error (.mismatch (.notScalar name)) := by
  obtain ⟨name, value, hlast, hvalue⟩ := hnested
  obtain ⟨entry, hentry, hnested, herror⟩ := scalarTexts_eq_error
    ⟨(name, kept source value), mem_sectionValues_iff.mpr ⟨value, hlast, rfl⟩,
      (isNested_kept source value).mpr hvalue⟩
  obtain ⟨last, hlast, hkept⟩ := mem_sectionValues_iff.mp hentry
  refine ⟨entry.1, last, hlast, (isNested_kept source last).mp (hkept ▸ hnested), ?_⟩
  rw [textSection_of_spelled h hadmits, herror]
  rfl

/-- The names of the sections of a request. -/
def sectionNames : List String := ["query_params", "headers", "body"]

/-- A section of a request may be written in any way that is read alike. -/
theorem request_congr {tree tree' : Tree} {name : String} (hname : name ∈ sectionNames)
    (h : ∀ inner, source.enter = .ok inner → textSection inner tree = textSection inner tree' ∧
      valueSection inner tree = valueSection inner tree')
    (hwhole : tree.isWhole = tree'.isWhole) (before after : List (Option String × Tree))
    (closed : Bool) :
    request source (.object (before ++ (some name, tree) :: after) closed) =
      request source (.object (before ++ (some name, tree') :: after) closed) := by
  have hother : ∀ {field : String}, field ∉ sectionNames → field ≠ name :=
    fun hfield heq => hfield (heq ▸ hname)
  refine Decoder.record_congr (fun inner henter => ?_) hwhole before after closed
  obtain ⟨htexts, hvalues⟩ := h inner henter
  exact ⟨fun heq => absurd heq (hother (by decide)), fun heq => absurd heq (hother (by decide)),
    fun _ => htexts, fun _ => htexts, fun _ => hvalues, trivial⟩

/-- A section that is `null` may be left out. -/
theorem request_concat_null {name : String} (hname : name ∈ sectionNames)
    {members : List (Option String × Tree)} (hmembers : some name ∉ members.map Prod.fst)
    (closed : Bool) :
    request source (.object (members ++ [(some name, .null)]) closed) =
      request source (.object members closed) := by
  have hother : ∀ {field : String}, field ∉ sectionNames → field ≠ name :=
    fun hfield heq => hfield (heq ▸ hname)
  refine Decoder.record_concat_missing (fun inner _ => ?_) rfl hmembers closed
  exact ⟨fun heq => absurd heq (hother (by decide)), fun heq => absurd heq (hother (by decide)),
    fun _ => ⟨_, rfl, rfl⟩, fun _ => ⟨_, rfl, rfl⟩, fun _ => ⟨_, rfl, rfl⟩, trivial⟩

/-- What is read of a section with the given bindings. -/
structure ReadsLastValues (source : Source) (bound : List (String × Value)) (tree : Tree) :
    Prop where
  /-- A section of values keeps the last value of each name, `null` like others. -/
  values : ∃ values, valueSection source tree = .ok values ∧
    ∀ name, values.get? name = (lastValue? bound name).map (kept source)
  /-- A section of texts is refused when the last value of some name is nested. -/
  refused : (∃ failure, textSection source tree = .error failure) ↔
    ∃ name value, lastValue? bound name = some value ∧ value.IsNested
  /-- A section of texts keeps the texts of the last values that are not `null`. -/
  texts : ∀ texts, textSection source tree = .ok texts →
    ∀ name, texts.get? name = (lastValue? bound name).bind plainText?

/-- A section is read from either spelling. -/
theorem readsLastValues_of_spelled (h : Spelled bound written)
    (hadmits : source.Admits written.nesting) :
    ReadsLastValues source bound written.toTree where
  values := ⟨_, valueSection_of_spelled h hadmits, get?_sectionValues source bound⟩
  refused := by
    constructor
    · rintro ⟨failure, herror⟩
      by_contra hplain
      obtain ⟨texts, hok, -⟩ := textSection_eq_ok h hadmits fun name value hlast hnested =>
        hplain ⟨name, value, hlast, hnested⟩
      rw [hok] at herror
      cases herror
    · intro hnested
      obtain ⟨name, -, -, -, herror⟩ := textSection_eq_error h hadmits hnested
      exact ⟨_, herror⟩
  texts := by
    intro texts hok
    by_cases hnested : ∃ name value, lastValue? bound name = some value ∧ value.IsNested
    · obtain ⟨name, -, -, -, herror⟩ := textSection_eq_error h hadmits hnested
      rw [hok] at herror
      cases herror
    · obtain ⟨read, hread, htexts⟩ := textSection_eq_ok h hadmits fun name value hlast hvalue =>
        hnested ⟨name, value, hlast, hvalue⟩
      rw [hok] at hread
      cases hread
      exact htexts

/-- Two spellings of a section are read alike. -/
theorem sections_eq_of_spelled (hwritten : Spelled bound written) (hother : Spelled bound other)
    (hadmits : source.Admits written.nesting) (hadmits' : source.Admits other.nesting) :
    textSection source written.toTree = textSection source other.toTree ∧
      valueSection source written.toTree = valueSection source other.toTree := by
  rw [textSection_of_spelled hwritten hadmits, textSection_of_spelled hother hadmits',
    valueSection_of_spelled hwritten hadmits, valueSection_of_spelled hother hadmits']
  exact ⟨rfl, rfl⟩

/-- A request whose body is its only member. -/
theorem request_body (henter : source.enter = .ok inner) (tree : Tree) :
    request source (.object [(some "body", tree)] true) =
      (valueSection inner tree).map fun body =>
        { method := "", path := "", queryParams := .empty, headers := .empty, body } := by
  refine (Decoder.record_object_of_enter henter _ _).trans ?_
  have hbody : (RecordFields.cons (sectionField "body" valueSection) .done).putMember inner
      (none, ()) (some "body", tree) =
      (valueSection inner tree).map fun body => (some body, ()) :=
    RecordFields.putMember_cons_self
  simp only [RecordFields.start, List.foldlM_cons, List.foldlM_nil]
  rw [RecordFields.putMember_cons_of_ne (by decide), RecordFields.putMember_cons_of_ne (by decide),
    RecordFields.putMember_cons_of_ne (by decide), RecordFields.putMember_cons_of_ne (by decide),
    hbody]
  cases valueSection inner tree <;> rfl

/-- A section that nests deeper than its source admits is malformed, in either spelling. -/
theorem section_malformed (hdeep : ¬source.Admits written.nesting) :
    valueSection source written.toTree = .error .malformed ∧
      textSection source written.toTree = .error .malformed := by
  have hvalues : valueSection source written.toTree = .error .malformed := by
    change (written.toTree.toValue source).bind _ = _
    rw [toValue_toTree_malformed hdeep]
    rfl
  refine ⟨hvalues, ?_⟩
  change (valueSection source written.toTree).bind _ = _
  rw [hvalues]
  rfl

/-- Arrays around `null`. -/
def arrays : Nat → Value
  | 0 => .null
  | depth + 1 => .array [arrays depth]

/-- The nesting of arrays around `null`. -/
theorem nesting_arrays (depth : Nat) : (arrays depth).nesting = depth := by
  induction depth with
  | zero => rw [arrays, Value.nesting]
  | succ depth ih =>
    rw [arrays, Value.nesting, List.map_singleton, ih]
    simp

/-- Arrays around `null` have no fields to be put in order. -/
theorem canonical_arrays (depth : Nat) : (arrays depth).canonical = arrays depth := by
  induction depth with
  | zero => simp [arrays, Value.canonical]
  | succ depth ih => rw [arrays, Value.canonical, List.map_singleton, ih]

/-- Wherever their nesting is admitted, the two spellings of a section mean the same. The last value
of each name counts, and an overridden one neither is a failure nor stays behind a later `null`. In
a request the spellings are interchangeable, and a missing section is one that is `null`. What nests
too deep for a text is malformed. -/
theorem spellings_agree :
    (∀ source bound written, Spelled bound written → source.Admits written.nesting →
      ReadsLastValues source bound written.toTree) ∧
    (∀ source bound written other, Spelled bound written → Spelled bound other →
      source.Admits written.nesting → source.Admits other.nesting →
      textSection source written.toTree = textSection source other.toTree ∧
        valueSection source written.toTree = valueSection source other.toTree) ∧
    (∀ source bound written other name before after closed,
      Spelled bound written → Spelled bound other → name ∈ sectionNames →
      (∀ inner, source.enter = .ok inner →
        inner.Admits written.nesting ∧ inner.Admits other.nesting) →
      request source (.object (before ++ (some name, written.toTree) :: after) closed) =
        request source (.object (before ++ (some name, other.toTree) :: after) closed)) ∧
    (∀ source name members closed, name ∈ sectionNames → some name ∉ members.map Prod.fst →
      request source (.object (members ++ [(some name, .null)]) closed) =
        request source (.object members closed)) ∧
    ∀ levels (written : Value), levels < written.nesting →
      valueSection (.text levels) written.toTree = .error .malformed ∧
        textSection (.text levels) written.toTree = .error .malformed := by
  refine ⟨fun source bound written => readsLastValues_of_spelled,
    fun source bound written other => sections_eq_of_spelled, ?_,
    fun source name members closed hname hmembers => request_concat_null hname hmembers closed,
    fun levels written hdeep => section_malformed (Nat.not_le_of_lt hdeep)⟩
  intro source bound written other name before after closed hwritten hother hname hadmits
  refine request_congr hname (fun inner henter => ?_) ?_ before after closed
  · obtain ⟨hwithin, hwithin'⟩ := hadmits inner henter
    exact sections_eq_of_spelled hwritten hother hwithin hwithin'
  · rw [isWhole_toTree, isWhole_toTree]

/-- A nested value that is overridden by `null` is no failure in a list of pairs either. -/
theorem spellings_agree_overridden :
    let bound := [("a", Value.array []), ("a", .null), ("b", .boolean true)]
    ReadsLastValues (.text 3) bound (Value.array (bound.map ofBinding)).toTree ∧
      request .value (.object [(some "headers", (Value.object bound).toTree)] true) =
        request .value
          (.object [(some "headers", (Value.array (bound.map ofBinding)).toTree)] true) := by
  intro bound
  refine ⟨spellings_agree.1 _ _ _ (.pairs bound) ?_, ?_⟩
  · simp [bound, ofBinding, Source.Admits, Value.nesting]
  · exact spellings_agree.2.2.1 .value bound _ _ "headers" [] [] true (.object bound) (.pairs bound)
      (by decide) fun inner henter => by cases henter; exact ⟨trivial, trivial⟩

/-- A body value of 125 arrays is read from an object in a text. As a list of pairs the same binding
is malformed, since the value stands 128 levels deep then. -/
theorem deep_pairs_malformed :
    (request (.text maxNesting)
      (.object [(some "body", (Value.object [("a", arrays 125)]).toTree)] true)).map
        (fun read => read.body.get? "a") = .ok (some (arrays 125)) ∧
    request (.text maxNesting)
      (.object [(some "body", (Value.array [ofBinding ("a", arrays 125)]).toTree)] true) =
        .error .malformed := by
  have henter : (Source.text maxNesting).enter = .ok (.text 126) := rfl
  have hobject : (Source.text 126).Admits (Value.object [("a", arrays 125)]).nesting := by
    simp [Source.Admits, Value.nesting, nesting_arrays]
  have hpairs : ¬(Source.text 126).Admits (Value.array [ofBinding ("a", arrays 125)]).nesting := by
    simp [Source.Admits, Value.nesting, ofBinding, nesting_arrays]
  constructor
  · rw [request_body henter, valueSection_of_spelled (.object _) hobject]
    change Except.ok ((sectionValues (.text 126) [("a", arrays 125)]).get? "a") = _
    rw [get?_sectionValues]
    change Except.ok (some (arrays 125).canonical) = _
    rw [canonical_arrays]
  · rw [request_body henter, (section_malformed hpairs).1]
    rfl

end Wire

end ApiDrift
