import ApiDrift.Proofs.Number.Text
import ApiDrift.Proofs.Tag.Grammar
import ApiDrift.Proofs.Tag.Parts

/-!
# What tags refuse

Each tag other than the one for texts needs certain characters. So a number is refused by all tags
but those for integers and texts, and a text that begins with a bracket by all but those for lists
and texts.
-/

namespace ApiDrift.Tag

open Number (isNumeral)

/-- Joined texts have a separator between any two of them. -/
theorem length_le_count_intercalate (sep : Char) (texts : List (List Char)) :
    texts.length ≤ ([sep].intercalate texts).count sep + 1 := by
  induction texts with
  | nil => exact Nat.zero_le _
  | cons first rest ih =>
    cases rest with
    | nil => exact Nat.le_add_left 1 _
    | cons second others =>
      rw [List.intercalate_cons_cons, List.count_append, List.count_append,
        List.count_singleton_self, List.length_cons]
      omega

/-- An identifier has four hyphens. -/
theorem four_le_count_of_isUuid {text : List Char} (h : isUuid text = true) :
    4 ≤ text.count '-' := by
  obtain ⟨-, hgroups⟩ := Bool.and_eq_true_iff.mp h
  have hlength : (text.splitOn '-').length = 5 := by
    rw [← List.length_map List.length, eq_of_beq hgroups]
    rfl
  have hle := length_le_count_intercalate '-' (text.splitOn '-')
  rw [List.intercalate_splitOn, hlength] at hle
  exact Nat.le_of_succ_le_succ hle

/-- A day has two hyphens. -/
theorem count_of_isDate {text : List Char} (h : isDate text = true) : text.count '-' = 2 := by
  obtain ⟨d, rfl | rfl⟩ := isDate_iff.mp h
  · exact d.count_hyphen
  · rw [List.count_append, List.count_cons, d.count_hyphen]
    rfl

/-- An address has an at sign, and before it only characters of atoms and dots. -/
theorem before_at_of_isEmail {text : List Char} (h : isEmail text = true) :
    '@' ∈ text ∧ ∀ c ∈ text.takeWhile (· != '@'), c = '.' ∨ isAtomChar c = true := by
  obtain ⟨-, front, domain, rfl, hat, hlocal, -⟩ := isEmail_iff.mp h
  rw [(Text.span_mark hat domain).1]
  exact ⟨by simp, hlocal.atoms.chars_of_atoms⟩

/-- A token begins with the letter of its first word. -/
theorem head?_of_isAuthToken {text : List Char} (h : isAuthToken text = true) :
    text.head? = some 'B' := by
  unfold isAuthToken at h
  split at h
  · rfl
  · cases h

/-- A truth value begins with the letter of one of two words. -/
theorem head?_of_isBoolean {text : List Char} (h : isBoolean text = true) :
    text.head? = some 't' ∨ text.head? = some 'f' := by
  rcases isBoolean_iff.mp h with rfl | rfl
  · exact .inl rfl
  · exact .inr rfl

/-- A list literal has a bracket. -/
theorem mem_of_isList {text : List Char} (h : isList text = true) : '[' ∈ text := by
  obtain ⟨⟨content, hcontent⟩, -⟩ := isList_iff.mp h
  obtain ⟨left, right, htext, -⟩ := Text.exists_blank_around text
  rw [htext, hcontent]
  simp

section Numerals

variable {text : List Char} (hchars : ∀ c ∈ text, isNumeral c = true)

include hchars

/-- A character that stands in no number does not stand in a text of numerals. -/
theorem notMem_of_numerals {mark : Char} (hmark : isNumeral mark = false) : mark ∉ text := by
  intro hmem
  rw [hchars mark hmem] at hmark
  cases hmark

/-- A text of numerals does not begin with a character that stands in no number. -/
theorem head?_ne_of_numerals {mark : Char} (hmark : isNumeral mark = false) :
    text.head? ≠ some mark := fun hhead =>
  notMem_of_numerals hchars hmark (List.mem_of_mem_head? hhead)

/-- Of the tags for texts that are not numbers, only that for lines accepts numerals, and that for
days if they have enough hyphens. -/
theorem accepts_numerals_iff (hne : text ≠ []) (hcount : text.count '-' ≤ 2) (tag : Tag) :
    tag.accepts text = true ↔
      tag = .text ∨ (tag = .integer ∧ isInteger text = true) ∨
        (tag = .date ∧ isDate text = true) := by
  cases tag with
  | integer => simp [accepts]
  | text =>
    have hline : isLine text = true := isLine_of_forall (by decide) (by decide) hne hchars
    simp [accepts, hline]
  | date => simp [accepts]
  | boolean =>
    have hnot : isBoolean text ≠ true := by
      intro h
      rcases head?_of_isBoolean h with hhead | hhead
      · exact head?_ne_of_numerals hchars (by decide) hhead
      · exact head?_ne_of_numerals hchars (by decide) hhead
    simp [accepts, hnot]
  | list =>
    have hnot : isList text ≠ true := fun h =>
      notMem_of_numerals hchars (by decide) (mem_of_isList h)
    simp [accepts, hnot]
  | email =>
    have hnot : isEmail text ≠ true := fun h =>
      notMem_of_numerals hchars (by decide) (before_at_of_isEmail h).1
    simp [accepts, hnot]
  | uuid =>
    have hnot : isUuid text ≠ true := fun h => by
      have := four_le_count_of_isUuid h
      omega
    simp [accepts, hnot]
  | authToken =>
    have hnot : isAuthToken text ≠ true := fun h =>
      head?_ne_of_numerals hchars (by decide) (head?_of_isAuthToken h)
    simp [accepts, hnot]

end Numerals

/-- An integer is accepted as an integer and as a text. -/
theorem accepts_integerText_iff (value : Int) (tag : Tag) :
    tag.accepts (Json.integerText value) = true ↔ tag = .integer ∨ tag = .text := by
  have hinteger := Json.isInteger_integerText value
  have hcount := Json.count_minus_integerText value
  obtain ⟨hne, hchars⟩ := Json.integerText_chars value
  have hdate : isDate (Json.integerText value) ≠ true := fun h => by
    have := count_of_isDate h
    omega
  rw [accepts_numerals_iff hchars hne (by omega)]
  simp [hinteger, hdate, or_comm]

/-- A double is accepted as a text. -/
theorem accepts_doubleText_iff (x : Number.Double) (tag : Tag) :
    tag.accepts x.text = true ↔ tag = .text := by
  obtain ⟨hne, hchars, hcount, hmark⟩ := x.text_chars
  have hfraction : ∃ c ∈ x.text, c ≠ '"' ∧ ¬(isDigit c = true ∨ c = '-') := by
    rcases hmark with hmark | hmark
    · exact ⟨_, hmark, by decide⟩
    · exact ⟨_, hmark, by decide⟩
  obtain ⟨c, hc, hquote, hnot⟩ := hfraction
  have hinteger : isInteger x.text ≠ true := fun h =>
    hnot ((isDigit_or_minus_of_isInteger h).2 c hc)
  have hdate : isDate x.text ≠ true := fun h =>
    hnot (((chars_of_isDate h).2 c hc).resolve_left hquote)
  rw [accepts_numerals_iff hchars hne hcount]
  simp [hinteger, hdate]

/-- A truth value is accepted as a truth value and as a text. -/
theorem accepts_booleanText_iff (value : Bool) (tag : Tag) :
    tag.accepts (Json.booleanText value).toList = true ↔ tag = .boolean ∨ tag = .text := by
  cases value <;> cases tag <;> decide +kernel

/-- A text that begins with a bracket and is no address is accepted at most as a text and as a
list. -/
theorem accepts_bracketed_iff {opening : Char} (hopening : opening = '[' ∨ opening = '{')
    {rest : List Char} (hemail : isEmail (opening :: rest) ≠ true) (tag : Tag) :
    tag.accepts (opening :: rest) = true ↔
      (tag = .text ∧ isLine (opening :: rest) = true) ∨
        (tag = .list ∧ isList (opening :: rest) = true) := by
  have hdigits : ¬(isDigit opening = true ∨ opening = '-') := by
    rcases hopening with rfl | rfl <;> decide
  have hhex : ¬(isHexDigit opening || opening == '-') = true := by
    rcases hopening with rfl | rfl <;> decide
  have hletters : opening ≠ '"' ∧ opening ≠ 'B' ∧ opening ≠ 't' ∧ opening ≠ 'f' := by
    rcases hopening with rfl | rfl <;> decide
  obtain ⟨hquote, hB, ht, hf⟩ := hletters
  have hfirst : opening ∈ opening :: rest := List.mem_cons_self
  cases tag with
  | text => simp [accepts]
  | list => simp [accepts]
  | email => simp [accepts, hemail]
  | integer =>
    have hnot : isInteger (opening :: rest) ≠ true := fun h =>
      hdigits ((isDigit_or_minus_of_isInteger h).2 _ hfirst)
    simp [accepts, hnot]
  | date =>
    have hnot : isDate (opening :: rest) ≠ true := fun h =>
      hdigits (((chars_of_isDate h).2 _ hfirst).resolve_left hquote)
    simp [accepts, hnot]
  | boolean =>
    have hnot : isBoolean (opening :: rest) ≠ true := by
      intro h
      rcases head?_of_isBoolean h with hhead | hhead
      · exact ht (Option.some.inj hhead)
      · exact hf (Option.some.inj hhead)
    simp [accepts, hnot]
  | uuid =>
    have hnot : isUuid (opening :: rest) ≠ true := by
      intro h
      obtain ⟨⟨-, hall⟩, -⟩ : (_ ∧ _) ∧ _ := by
        simpa only [isUuid, Bool.and_eq_true] using h
      exact hhex (List.all_eq_true.mp hall _ hfirst)
    simp [accepts, hnot]
  | authToken =>
    have hnot : isAuthToken (opening :: rest) ≠ true := fun h =>
      hB (Option.some.inj (head?_of_isAuthToken h))
    simp [accepts, hnot]

end ApiDrift.Tag
