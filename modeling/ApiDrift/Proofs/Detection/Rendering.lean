import ApiDrift.Detection.Rendering
import ApiDrift.Proofs.Number.Text
import ApiDrift.Proofs.Tag.Exactness

/-!
# Rendered values under the scan

A rendered value, however it is nested and whatever its texts and keys contain, begins and ends
with a character that is not blank, and a scan passes it without a cut. So a rendered array is
taken apart into its rendered items, and a rendered object into its rendered values.
-/

namespace ApiDrift.Detection

open Json
open Tag (Escaped Nested Inert marks delimiters listElements? objectElements? pairValue? parts?
  partsOfTrimmed?)

/-- Texts with a space before each of them but the first. -/
def spaced : List (List Char) → List (List Char)
  | [] => []
  | first :: rest => first :: rest.map fun text => ' ' :: text

/-- A comma and a space between texts are commas between spaced ones. -/
theorem intercalate_spaced (texts : List (List Char)) :
    ", ".toList.intercalate texts = [','].intercalate (spaced texts) := by
  induction texts with
  | nil => rfl
  | cons first rest ih =>
    cases rest with
    | nil => rfl
    | cons second others =>
      have hspaced : spaced (first :: second :: others) =
          first :: (' ' :: second) :: others.map fun text => ' ' :: text := rfl
      have hcommas : ", ".toList.intercalate (second :: others) =
          [','].intercalate (second :: others.map fun text => ' ' :: text) := ih
      rw [List.intercalate_cons_cons, hcommas, hspaced, List.intercalate_cons_cons,
        List.intercalate_cons_cons_left, List.append_assoc, List.append_assoc]
      rfl

/-- Spaced texts are the texts, maybe behind a space. -/
theorem mem_spaced {texts : List (List Char)} {piece : List Char} (h : piece ∈ spaced texts) :
    ∃ text ∈ texts, piece = text ∨ piece = ' ' :: text := by
  cases texts with
  | nil => cases h
  | cons first rest =>
    rcases List.mem_cons.mp h with rfl | h
    · exact ⟨_, List.mem_cons_self, .inl rfl⟩
    · obtain ⟨text, htext, rfl⟩ := List.mem_map.mp h
      exact ⟨text, List.mem_cons_of_mem _ htext, .inr rfl⟩

/-- Trimming takes away a space in front. -/
theorem trim_space_cons (text : List Char) : Text.trim (' ' :: text) = Text.trim text := by
  rw [Text.trim_eq, Text.trim_eq, List.dropWhile_cons_of_pos (by decide)]

/-- Trimming takes the spaces away from spaced texts. -/
theorem map_trim_spaced {texts : List (List Char)} (h : ∀ text ∈ texts, Text.Tight text) :
    (spaced texts).map Text.trim = texts := by
  cases texts with
  | nil => rfl
  | cons first rest =>
    obtain ⟨hfirst, hrest⟩ := List.forall_mem_cons.mp h
    rw [spaced, List.map_cons, List.map_map, hfirst.trim_eq]
    congr 1
    refine (List.map_congr_left fun text htext => ?_).trans (List.map_id rest)
    exact (trim_space_cons text).trans (hrest text htext).trim_eq

section Scanned

variable {least : Int} {delimiter : Char} {texts : List (List Char)}

/-- Spaced texts are passed when the texts are. -/
theorem inert_of_mem_spaced (hdelimiter : delimiter ∈ delimiters)
    (h : ∀ text ∈ texts, Inert least delimiter text) {piece : List Char}
    (hpiece : piece ∈ spaced texts) : Inert least delimiter piece := by
  obtain ⟨text, htext, rfl | rfl⟩ := mem_spaced hpiece
  · exact h _ htext
  · have hspace : ∀ c ∈ delimiters, ' ' ≠ c := List.all_iff_forall_prop.mp (by decide)
    exact (Inert.singleton (by decide) (.inl (hspace _ hdelimiter))).append (h _ htext)

/-- A text between quotes is escaped. -/
theorem escaped_flatMap (text : List Char) : Escaped (text.flatMap escapeLiteral) := by
  induction text with
  | nil => exact .nil
  | cons c rest ih =>
    rw [List.flatMap_cons, escapeLiteral]
    split
    · exact .escape ih
    · next hc =>
      rw [not_or] at hc
      exact .plain hc.1 hc.2 ih

/-- A quoted text is closed. -/
theorem nested_quoteLiteral (text : String) : Nested true (quoteLiteral text) :=
  .quoted (escaped_flatMap text.toList) .nil

/-- The text of an array joins those of its items. -/
theorem nestedText_array (items : List Value) :
    nestedText (.array items) =
      '[' :: ([','].intercalate (spaced (items.map nestedText)) ++ [']']) := by
  rw [nestedText, ← intercalate_spaced]
  rfl

/-- The text of a field of an object. -/
def fieldText (field : String × Value) : List Char :=
  quoteLiteral field.1 ++ '=' :: nestedText field.2

/-- The text of an object joins those of its fields. -/
theorem nestedText_object (fields : List (String × Value)) :
    nestedText (.object fields) =
      '{' :: ([','].intercalate (spaced (fields.map fieldText)) ++ ['}']) := by
  rw [nestedText, ← intercalate_spaced]
  rfl

/-- A scan passes the text of a value. -/
theorem inert_nestedText (hdelimiter : delimiter ∈ delimiters) (value : Value) :
    Inert 0 delimiter (nestedText value) := by
  induction value using nestedText.induct with
  | case1 =>
    rw [nestedText]
    exact .of_notMem (List.all_iff_forall_prop.mp (by decide)) hdelimiter
  | case2 value =>
    rw [nestedText]
    have hwords : ∀ c ∈ (booleanText value).toList, c ∉ marks ++ delimiters := by
      cases value <;> exact List.all_iff_forall_prop.mp (by decide)
    exact .of_notMem hwords hdelimiter
  | case3 number =>
    rw [nestedText]
    have hnone : ∀ mark ∈ marks ++ delimiters, Number.isNumeral mark = false :=
      List.all_iff_forall_prop.mp (by decide)
    refine .of_notMem (fun c hc hmark => ?_) hdelimiter
    exact Bool.false_ne_true ((hnone c hmark).symm.trans (number.text_chars.2 c hc))
  | case4 text =>
    rw [nestedText]
    exact .quoted (escaped_flatMap text.toList) hdelimiter
  | case5 items ih =>
    rw [nestedText_array]
    refine .bracketed .square (.intercalate (by decide) fun piece => ?_) hdelimiter (Int.le_refl 0)
    refine inert_of_mem_spaced hdelimiter fun text htext => ?_
    obtain ⟨item, hitem, rfl⟩ := List.mem_map.mp htext
    exact (ih item hitem).mono Int.one_nonneg
  | case6 fields ih =>
    rw [nestedText_object]
    refine .bracketed .curly (.intercalate (by decide) fun piece => ?_) hdelimiter (Int.le_refl 0)
    refine inert_of_mem_spaced hdelimiter fun text htext => ?_
    obtain ⟨field, hfield, rfl⟩ := List.mem_map.mp htext
    exact .pair (nested_quoteLiteral field.1) ((ih field hfield).mono Int.one_nonneg) hdelimiter
      Int.one_nonneg (.inr Int.one_pos)

end Scanned

/-- The text of a value neither begins nor ends with a blank character. -/
theorem tight_nestedText (value : Value) : Text.Tight (nestedText value) := by
  cases value with
  | null =>
    rw [nestedText]
    exact .of_forall (by decide) (List.all_iff_forall_prop.mp (by decide))
  | boolean value =>
    rw [nestedText]
    cases value
    · exact .of_forall (by decide) (List.all_iff_forall_prop.mp (by decide))
    · exact .of_forall (by decide) (List.all_iff_forall_prop.mp (by decide))
  | number number =>
    rw [nestedText]
    obtain ⟨hne, hchars⟩ := number.text_chars
    exact .of_forall hne fun c hc => Number.isBlank_of_isNumeral (hchars c hc)
  | string text =>
    rw [nestedText]
    exact .enclosed (by decide) (by decide) _
  | array items =>
    rw [nestedText_array]
    exact .enclosed (by decide) (by decide) _
  | object fields =>
    rw [nestedText_object]
    exact .enclosed (by decide) (by decide) _

/-- The text of a field neither begins nor ends with a blank character. -/
theorem tight_fieldText (field : String × Value) : Text.Tight (fieldText field) := by
  have hname : Text.Tight (quoteLiteral field.1) := .enclosed (by decide) (by decide) _
  have htext : fieldText field = quoteLiteral field.1 ++ ['='] ++ nestedText field.2 := by
    simp [fieldText]
  rw [htext]
  exact hname.append (tight_nestedText field.2) ['=']

/-- Tight texts that a scan passes are the segments of what their spaced texts are joined to. -/
theorem segments?_spaced {texts : List (List Char)} (hne : texts ≠ [])
    (htight : ∀ text ∈ texts, Text.Tight text) (hinert : ∀ text ∈ texts, Inert 0 ',' text) :
    Tag.segments? ',' (Text.trim ([','].intercalate (spaced texts))) = some texts := by
  have hcontent :
      Text.trim ([','].intercalate (spaced texts)) = [','].intercalate (spaced texts) := by
    rw [← intercalate_spaced]
    exact (Text.Tight.intercalate hne htight).trim_eq
  have hspaced : spaced texts ≠ [] := by
    cases texts with
    | nil => exact absurd rfl hne
    | cons first rest => exact List.cons_ne_nil _ _
  rw [hcontent, Tag.segments?_intercalate hspaced
    fun piece => inert_of_mem_spaced (by decide) hinert, map_trim_spaced htight]

/-- What tight texts are joined to has some character. -/
theorem isEmpty_trim_spaced {texts : List (List Char)} (hne : texts ≠ [])
    (htight : ∀ text ∈ texts, Text.Tight text) :
    (Text.trim ([','].intercalate (spaced texts))).isEmpty = false := by
  have hjoined : Text.Tight (", ".toList.intercalate texts) := .intercalate hne htight
  rw [← intercalate_spaced, hjoined.trim_eq, List.isEmpty_eq_false_iff]
  exact hjoined.ne_nil

/-- The text of an array is taken apart into the texts of its items. -/
theorem parts?_array (items : List Value) :
    parts? (nestedText (.array items)) = some (items.map nestedText) := by
  rw [parts?, (tight_nestedText _).trim_eq, nestedText_array, Tag.partsOfTrimmed?_list]
  cases hitems : items with
  | nil => rfl
  | cons first rest =>
    rw [← hitems]
    have hne : items.map nestedText ≠ [] := by simp [hitems]
    have htight : ∀ text ∈ items.map nestedText, Text.Tight text :=
      List.forall_mem_map.mpr fun item _ => tight_nestedText item
    have hinert : ∀ text ∈ items.map nestedText, Inert 0 ',' text :=
      List.forall_mem_map.mpr fun item _ => inert_nestedText (by decide) item
    rw [listElements?, isEmpty_trim_spaced hne htight, if_neg Bool.false_ne_true,
      segments?_spaced hne htight hinert]

/-- The value of a field. -/
theorem pairValue?_fieldText (field : String × Value) :
    pairValue? (fieldText field) = some (nestedText field.2) := by
  have hname : Inert 0 '=' (quoteLiteral field.1) :=
    .quoted (escaped_flatMap field.1.toList) (by decide)
  have hpieces := Tag.pieces?_pair_of_inert hname (inert_nestedText (by decide) field.2)
  rw [pairValue?, fieldText, Tag.segments?, hpieces, Option.map_some, List.map_cons, List.map_cons,
    List.map_nil, (tight_nestedText field.2).trim_eq]

/-- The text of an object is taken apart into the texts of its values. -/
theorem parts?_object (fields : List (String × Value)) :
    parts? (nestedText (.object fields)) =
      some (fields.map fun field => nestedText field.2) := by
  rw [parts?, (tight_nestedText _).trim_eq, nestedText_object, Tag.partsOfTrimmed?_object]
  cases hfields : fields with
  | nil => rfl
  | cons first rest =>
    rw [← hfields]
    have hne : fields.map fieldText ≠ [] := by simp [hfields]
    have htight : ∀ text ∈ fields.map fieldText, Text.Tight text :=
      List.forall_mem_map.mpr fun field _ => tight_fieldText field
    have hinert : ∀ text ∈ fields.map fieldText, Inert 0 ',' text :=
      List.forall_mem_map.mpr fun field _ =>
        .pair (nested_quoteLiteral field.1) (inert_nestedText (by decide) field.2) (by decide)
          (Int.le_refl 0) (.inl (by decide))
    rw [objectElements?, isEmpty_trim_spaced hne htight, if_neg Bool.false_ne_true,
      segments?_spaced hne htight hinert, Option.bind_some, Tag.mapM_eq_some_iff,
      List.forall₂_map_left_iff, List.forall₂_map_right_iff, List.forall₂_same]
    exact fun field _ => pairValue?_fieldText field

end ApiDrift.Detection
