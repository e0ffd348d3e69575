import ApiDrift.Proofs.Detection.Rendering
import ApiDrift.Proofs.Tag.Refusal

/-!
# Rendered values and the tags that accept them

Which tags accept the raw text of a value can be read off the value. Numbers and truth values are
texts, and integers and truth values have tags of their own. An array or object is a text when none
of its keys and texts has a line break. An array is a list when whatever it contains at any depth is
an integer, a truth value or a line; keys play no part in that.
-/

namespace ApiDrift.Detection

open Json
open Tag (Accepted isLeaf isLine isInteger isBoolean accepted_iff_of_parts accepted_iff_isLeaf)

/-- What a value contains at any depth that is no array and no object, keys left out. -/
def leaves : Value → List Value
  | .array items => items.flatMap fun item => leaves item
  | .object fields => fields.flatMap fun field => leaves field.2
  | .null => [.null]
  | .boolean value => [.boolean value]
  | .number value => [.number value]
  | .string value => [.string value]
decreasing_by
  · exact sizeOf_lt_array ‹_›
  · exact sizeOf_lt_object ‹_›

/-- The texts and keys that a value contains at any depth. -/
def texts : Value → List String
  | .string text => [text]
  | .array items => items.flatMap fun item => texts item
  | .object fields => fields.flatMap fun field => field.1 :: texts field.2
  | .null | .boolean _ | .number _ => []
decreasing_by
  · exact sizeOf_lt_array ‹_›
  · exact sizeOf_lt_object ‹_›

/-- A text has no line break. -/
def OneLine (text : String) : Prop :=
  '\r' ∉ text.toList ∧ '\n' ∉ text.toList

/-- A value may be an element of a list literal. -/
def Listable : Value → Prop
  | .number (.integer _) | .boolean _ => True
  | .string text => text ≠ "" ∧ OneLine text
  | .null | .number (.double _) | .array _ | .object _ => False

/-- A tag fits a value which is neither `null` nor a text. -/
def Fits : Value → Tag → Prop
  | .boolean _, tag => tag = .boolean ∨ tag = .text
  | .number (.integer _), tag => tag = .integer ∨ tag = .text
  | .number (.double _), tag => tag = .text
  | .array items, tag =>
    (tag = .text ∧ ∀ text ∈ texts (.array items), OneLine text) ∨
      (tag = .list ∧ ∀ leaf ∈ leaves (.array items), Listable leaf)
  | .object fields, tag => tag = .text ∧ ∀ text ∈ texts (.object fields), OneLine text
  | .null, _ | .string _, _ => False

/-- Escaping adds and drops no character but backslashes. -/
theorem mem_flatMap_escapeLiteral {c : Char} (hc : c ≠ '\\') {text : List Char} :
    c ∈ text.flatMap escapeLiteral ↔ c ∈ text := by
  simp only [List.mem_flatMap, escapeLiteral]
  constructor
  · rintro ⟨d, hd, h⟩
    split at h
    · simp only [List.mem_cons, List.not_mem_nil, or_false, hc, false_or] at h
      exact h ▸ hd
    · exact List.mem_singleton.mp h ▸ hd
  · intro h
    refine ⟨c, h, ?_⟩
    split <;> simp

/-- Escaping leaves nothing exactly of nothing. -/
theorem flatMap_escapeLiteral_eq_nil {text : List Char} :
    text.flatMap escapeLiteral = [] ↔ text = [] := by
  cases text with
  | nil => simp
  | cons c rest =>
    have hne : escapeLiteral c ≠ [] := by
      unfold escapeLiteral
      split <;> exact List.cons_ne_nil _ _
    simp [hne]

/-- An escaped text is a line exactly when the text has some character and no line break. -/
theorem isLine_flatMap_iff (text : String) :
    isLine (text.toList.flatMap escapeLiteral) = true ↔ text ≠ "" ∧ OneLine text := by
  rw [Tag.isLine_iff, ne_eq, flatMap_escapeLiteral_eq_nil, String.toList_eq_nil_iff,
    mem_flatMap_escapeLiteral (by decide), mem_flatMap_escapeLiteral (by decide), OneLine]

/-- The text of a number is accepted inside a list exactly when the number is an integer. -/
theorem accepted_number_iff (number : Number) :
    Accepted number.text.toList ↔ Listable (.number number) := by
  obtain ⟨hne, hchars⟩ := number.text_chars
  have htight : Text.Tight number.text.toList :=
    .of_forall hne fun c hc => Number.isBlank_of_isNumeral (hchars c hc)
  have hhead : ∀ {mark : Char}, Number.isNumeral mark = false →
      number.text.toList.head? ≠ some mark := Tag.head?_ne_of_numerals hchars
  rw [accepted_iff_isLeaf htight.trim_eq (hhead (by decide)) (hhead (by decide)),
    Tag.isLeaf_of_head? (hhead (by decide)), Bool.or_eq_true]
  cases number with
  | integer value =>
    rw [Number.text, String.toList_ofList]
    exact iff_of_true (.inl (isInteger_integerText value)) trivial
  | double value =>
    rw [Number.text, String.toList_ofList]
    refine iff_of_false ?_ id
    rintro (hinteger | hboolean)
    · cases (Tag.accepts_doubleText_iff value .integer).mp hinteger
    · cases (Tag.accepts_doubleText_iff value .boolean).mp hboolean

/-- A quoted text is accepted inside a list exactly when it has some character and no line break. -/
theorem accepted_quoteLiteral_iff (text : String) :
    Accepted (quoteLiteral text) ↔ Listable (.string text) := by
  have htight : Text.Tight (quoteLiteral text) := .enclosed (by decide) (by decide) _
  rw [accepted_iff_isLeaf htight.trim_eq (by simp [quoteLiteral]) (by simp [quoteLiteral])]
  exact (Bool.eq_iff_iff.mp (Tag.isLeaf_quoted _)).trans (isLine_flatMap_iff text)

/-- The text of a value is accepted inside a list exactly when its leaves are listable. -/
theorem accepted_nestedText_iff (value : Value) :
    Accepted (nestedText value) ↔ ∀ leaf ∈ leaves value, Listable leaf := by
  induction value using nestedText.induct with
  | case1 =>
    rw [accepted_iff_isLeaf (tight_nestedText _).trim_eq] <;> rw [nestedText]
    · simp only [leaves, List.forall_mem_singleton]
      exact iff_of_false (by decide) id
    · decide
    · decide
  | case2 value =>
    rw [nestedText, leaves, List.forall_mem_singleton]
    cases value <;> exact iff_of_true (Tag.accepted_of_value (.bare (.inr (by decide)))) trivial
  | case3 number =>
    rw [nestedText, leaves, List.forall_mem_singleton]
    exact accepted_number_iff number
  | case4 text =>
    rw [nestedText, leaves, List.forall_mem_singleton]
    exact accepted_quoteLiteral_iff text
  | case5 items ih =>
    rw [accepted_iff_of_parts (parts?_array items), List.forall_mem_map, leaves,
      List.forall_mem_flatMap]
    exact forall₂_congr ih
  | case6 fields ih =>
    rw [accepted_iff_of_parts (parts?_object fields), List.forall_mem_map, leaves,
      List.forall_mem_flatMap]
    exact forall₂_congr ih

section Lines

variable {c : Char}

/-- A character that rendering adds to no value stands in the text of a list of parts exactly if it
stands in one of the parts. -/
theorem mem_bracketed_iff {opening closing : Char} (hopening : c ≠ opening) (hclosing : c ≠ closing)
    (hsep : c ∉ ", ".toList) {parts : List (List Char)} :
    c ∈ opening :: ([','].intercalate (spaced parts) ++ [closing]) ↔ ∃ part ∈ parts, c ∈ part := by
  rw [← intercalate_spaced, List.mem_cons, List.mem_append, Text.mem_intercalate_iff hsep,
    List.mem_singleton]
  simp [hopening, hclosing]

/-- What stands in one of several parts stands in one of their texts, if that holds of each
part. -/
theorem exists_mem_iff {α : Type} {items : List α} {part : α → List Char} {found : α → List String}
    (h : ∀ item ∈ items, c ∈ part item ↔ ∃ text ∈ found item, c ∈ text.toList) :
    (∃ piece ∈ items.map part, c ∈ piece) ↔ ∃ text ∈ items.flatMap found, c ∈ text.toList := by
  constructor
  · rintro ⟨piece, hpiece, hmem⟩
    obtain ⟨item, hitem, rfl⟩ := List.mem_map.mp hpiece
    obtain ⟨text, htext, hmem⟩ := (h item hitem).mp hmem
    exact ⟨text, List.mem_flatMap.mpr ⟨item, hitem, htext⟩, hmem⟩
  · rintro ⟨text, htext, hmem⟩
    obtain ⟨item, hitem, htext⟩ := List.mem_flatMap.mp htext
    exact ⟨_, List.mem_map_of_mem hitem, (h item hitem).mpr ⟨text, htext, hmem⟩⟩

/-- A line break stands in the text of a value exactly if it stands in one of its texts and
keys. -/
theorem mem_nestedText_iff (hc : c = '\r' ∨ c = '\n') (value : Value) :
    c ∈ nestedText value ↔ ∃ text ∈ texts value, c ∈ text.toList := by
  have hwords : ∀ word ∈ ["null", "true", "false"], c ∉ word.toList := by
    rcases hc with rfl | rfl <;> decide
  have hnumeral : Number.isNumeral c = false := by
    rcases hc with rfl | rfl <;> decide
  have hmarks : c ≠ '"' ∧ c ≠ '\\' ∧ c ≠ '=' ∧ c ∉ ", ".toList := by
    rcases hc with rfl | rfl <;> decide
  have hbrackets : c ≠ '[' ∧ c ≠ ']' ∧ c ≠ '{' ∧ c ≠ '}' := by
    rcases hc with rfl | rfl <;> decide
  obtain ⟨hquote, hbackslash, hequals, hsep⟩ := hmarks
  obtain ⟨hopen, hclose, hopen', hclose'⟩ := hbrackets
  have hquoted : ∀ text : String, c ∈ quoteLiteral text ↔ c ∈ text.toList := by
    intro text
    simp [quoteLiteral, hquote, mem_flatMap_escapeLiteral hbackslash]
  induction value using nestedText.induct with
  | case1 =>
    rw [nestedText, texts]
    exact iff_of_false (hwords _ (by decide)) (by simp)
  | case2 value =>
    rw [nestedText, texts]
    exact iff_of_false (hwords _ (by cases value <;> decide)) (by simp)
  | case3 number =>
    rw [nestedText, texts]
    exact iff_of_false (Tag.notMem_of_numerals number.text_chars.2 hnumeral) (by simp)
  | case4 text =>
    rw [nestedText, texts]
    simp [hquoted]
  | case5 items ih =>
    rw [nestedText_array, mem_bracketed_iff hopen hclose hsep, texts]
    exact exists_mem_iff ih
  | case6 fields ih =>
    rw [nestedText_object, mem_bracketed_iff hopen' hclose' hsep, texts]
    refine exists_mem_iff fun field hfield => ?_
    have hvalue : c ∈ nestedText field.2 ↔ ∃ text ∈ texts field.2, c ∈ text.toList :=
      ih field hfield
    rw [fieldText, List.mem_append, List.mem_cons, hquoted, hvalue, List.exists_mem_cons_iff]
    simp [hequals]

/-- The text of a value is a line exactly when none of its texts and keys has a line break. -/
theorem isLine_nestedText_iff (value : Value) :
    isLine (nestedText value) = true ↔ ∀ text ∈ texts value, OneLine text := by
  rw [Tag.isLine_iff, mem_nestedText_iff (.inl rfl), mem_nestedText_iff (.inr rfl),
    and_iff_right (tight_nestedText value).ne_nil]
  simp only [OneLine, not_exists, not_and, ← forall_and]

end Lines

/-- The text of an array is no address: no local part begins with a bracket. -/
theorem isEmail_array (items : List Value) : Tag.isEmail (nestedText (.array items)) ≠ true := by
  intro h
  have hfront := (Tag.before_at_of_isEmail h).2 '['
  rw [nestedText_array, List.takeWhile_cons_of_pos (by decide)] at hfront
  exact absurd (hfront List.mem_cons_self) (by decide)

/-- The text of an object is no address: no local part has a quote behind a bracket. -/
theorem isEmail_object (fields : List (String × Value)) :
    Tag.isEmail (nestedText (.object fields)) ≠ true := by
  intro h
  obtain ⟨hat, hfront⟩ := Tag.before_at_of_isEmail h
  rw [nestedText_object] at hat hfront
  cases fields with
  | nil => exact absurd hat (by decide)
  | cons first rest =>
    have hbegin : ∃ others, [','].intercalate (spaced (fieldText first :: rest.map fieldText)) =
        '"' :: others := by
      rw [spaced, fieldText, quoteLiteral, List.cons_append, List.cons_append,
        List.intercalate_cons_cons_left]
      exact ⟨_, rfl⟩
    obtain ⟨others, hbegin⟩ := hbegin
    rw [List.map_cons, hbegin, List.takeWhile_cons_of_pos (by decide), List.cons_append,
      List.takeWhile_cons_of_pos (by decide)] at hfront
    exact absurd (hfront '"' (List.mem_cons_of_mem _ List.mem_cons_self)) (by decide)

/-- The text of an array is a list exactly when its leaves are listable. -/
theorem isList_array_iff (items : List Value) :
    Tag.isList (nestedText (.array items)) = true ↔
      ∀ leaf ∈ leaves (.array items), Listable leaf := by
  rw [Tag.isList_iff, accepted_nestedText_iff, (tight_nestedText _).trim_eq, nestedText_array]
  exact and_iff_right ⟨_, rfl⟩

/-- The text of an object is no list. -/
theorem isList_object (fields : List (String × Value)) :
    Tag.isList (nestedText (.object fields)) ≠ true := by
  rw [ne_eq, Tag.isList_iff, (tight_nestedText _).trim_eq, nestedText_object]
  rintro ⟨⟨content, hcontent⟩, -⟩
  exact absurd (List.cons.inj hcontent).1 (by decide)

/-- A value that is neither `null` nor a text has a raw text, and exactly the tags that fit the
value accept it. -/
theorem accepts_rawText_iff {value : Value} (hnull : value ≠ .null)
    (hstring : ∀ text, value ≠ .string text) :
    ∃ raw, rawText? value = some raw ∧
      ∀ tag : Tag, tag.accepts raw.toList = true ↔ Fits value tag := by
  refine ⟨String.ofList (nestedText value), ?_, fun tag => ?_⟩
  · cases value with
    | null => exact absurd rfl hnull
    | string text => exact absurd rfl (hstring text)
    | boolean _ | number _ | array _ | object _ => rfl
  rw [String.toList_ofList]
  cases value with
  | null => exact absurd rfl hnull
  | string text => exact absurd rfl (hstring text)
  | boolean value =>
    rw [nestedText]
    exact Tag.accepts_booleanText_iff value tag
  | number number =>
    cases number with
    | integer value =>
      rw [nestedText, Number.text, String.toList_ofList]
      exact Tag.accepts_integerText_iff value tag
    | double value =>
      rw [nestedText, Number.text, String.toList_ofList]
      exact Tag.accepts_doubleText_iff value tag
  | array items =>
    have hemail := isEmail_array items
    have hline := isLine_nestedText_iff (.array items)
    have hlist := isList_array_iff items
    rw [nestedText_array] at hemail hline hlist ⊢
    rw [Tag.accepts_bracketed_iff (.inl rfl) hemail, hline, hlist, Fits]
  | object fields =>
    have hemail := isEmail_object fields
    have hline := isLine_nestedText_iff (.object fields)
    have hlist := isList_object fields
    rw [nestedText_object] at hemail hline hlist ⊢
    rw [Tag.accepts_bracketed_iff (.inr rfl) hemail, hline, Fits]
    exact or_iff_left fun h => hlist h.2

/-- An array with the delimiters of list literals in its texts and keys. -/
def delimited : Value :=
  .array [.object [("a=\"[,\\]", .array [.number (.integer (-3)), .boolean true]),
      ("", .object [("\n", .string "\"")])],
    .string "x, \"]=\\", .array []]

/-- Delimiters in texts and keys leave a list literal what it is, and so does a line break in a key,
but a text has none. -/
theorem accepts_rawText_delimited :
    ∃ raw, rawText? delimited = some raw ∧ ∀ tag : Tag, tag.accepts raw.toList = true ↔
      tag = .list := by
  have hnull : delimited ≠ .null := Value.noConfusion
  have hstring : ∀ text, delimited ≠ .string text := fun _ => Value.noConfusion
  obtain ⟨raw, hraw, haccepts⟩ := accepts_rawText_iff hnull hstring
  refine ⟨raw, hraw, fun tag => (haccepts tag).trans ?_⟩
  have htexts : ¬∀ text ∈ texts delimited, OneLine text := by
    simp [delimited, texts, OneLine]
  have hleaves : ∀ leaf ∈ leaves delimited, Listable leaf := by
    simp [delimited, leaves, Listable, OneLine]
  unfold delimited Fits
  exact ⟨fun h => h.elim (fun h => absurd h.2 htexts) And.left, fun h => .inr ⟨h, hleaves⟩⟩

end ApiDrift.Detection
