import ApiDrift.Proofs.Detection.Rendering
import ApiDrift.Proofs.Json.Nesting
import ApiDrift.Proofs.Number.Distinct
import ApiDrift.Proofs.Text.Cut

/-!
# Rendered values are unambiguous

The text of a value inside an array or object determines the value and where it ends: the first
character tells the form of the text, escaping is undone character by character, and a comma or a
closing bracket ends the rest. So arrays and objects with the same text are the same.
-/

namespace ApiDrift.Detection

open Json
open ApiDrift.Number (isNumeral)

/-- The characters behind a value inside an array or object. -/
def closers : List Char := [',', ']', '}']

/-- A text that may stand behind a value inside an array or object. -/
def Follows (text : List Char) : Prop :=
  ∀ c ∈ text.head?, c ∈ closers

/-- An item is determined by what a text begins with. -/
def Determined {α : Type} (text : α → List Char) (item : α) : Prop :=
  ∀ other x y, Follows x → Follows y → text item ++ x = text other ++ y → item = other ∧ x = y

/-- The forms of texts. -/
inductive Form where
  /-- A literal or a number. -/
  | bare
  /-- A text between quotes. -/
  | quoted
  /-- Items between square brackets. -/
  | square
  /-- Fields between curly brackets. -/
  | curly

/-- The form of a value's text. -/
def formOf : Value → Form
  | .null | .boolean _ | .number _ => .bare
  | .string _ => .quoted
  | .array _ => .square
  | .object _ => .curly

/-- The form of a text with a first character. -/
def Form.ofFirst (c : Char) : Form :=
  if c = '"' then .quoted else if c = '[' then .square else if c = '\x7b' then .curly else .bare

/-- An escaped character determines the character and where it ends. -/
theorem escapeLiteral_append_injective {c d : Char} {x y : List Char}
    (h : escapeLiteral c ++ x = escapeLiteral d ++ y) : c = d ∧ x = y := by
  unfold escapeLiteral at h
  split at h <;> split at h <;>
    simp only [List.cons_append, List.nil_append, List.cons.injEq, true_and] at h
  case isTrue.isTrue => exact h
  case isTrue.isFalse _ hplain => exact absurd (.inr h.1.symm) hplain
  case isFalse.isTrue hplain _ => exact absurd (.inr h.1) hplain
  case isFalse.isFalse => exact h

/-- An escaped character does not begin with a quote. -/
theorem escapeLiteral_ne_quote (c : Char) (x y : List Char) : escapeLiteral c ++ x ≠ '"' :: y := by
  intro h
  unfold escapeLiteral at h
  split at h
  · exact absurd (List.cons.inj h).1 (by decide)
  · next hplain => exact hplain (.inl (List.cons.inj h).1)

/-- An escaped text up to a quote determines the text and where it ends. -/
theorem escaped_append_injective {text other x y : List Char}
    (h : text.flatMap escapeLiteral ++ '"' :: x = other.flatMap escapeLiteral ++ '"' :: y) :
    text = other ∧ x = y := by
  induction text generalizing other with
  | nil =>
    cases other with
    | nil => exact ⟨rfl, (List.cons.inj h).2⟩
    | cons d others =>
      rw [List.flatMap_cons, List.append_assoc] at h
      exact absurd h.symm (escapeLiteral_ne_quote d _ _)
  | cons c rest ih =>
    rw [List.flatMap_cons, List.append_assoc] at h
    cases other with
    | nil => exact absurd h (escapeLiteral_ne_quote c _ _)
    | cons d others =>
      rw [List.flatMap_cons, List.append_assoc] at h
      obtain ⟨rfl, htail⟩ := escapeLiteral_append_injective h
      obtain ⟨rfl, hrest⟩ := ih htail
      exact ⟨rfl, hrest⟩

/-- A quoted text determines the text and where it ends. -/
theorem quoteLiteral_append_injective {text other : String} {x y : List Char}
    (h : quoteLiteral text ++ x = quoteLiteral other ++ y) : text = other ∧ x = y := by
  simp only [quoteLiteral, List.cons_append, List.append_assoc] at h
  obtain ⟨hchars, hrest⟩ := escaped_append_injective (List.cons.inj h).2
  exact ⟨String.toList_inj.mp hchars, hrest⟩

section Joined

variable {α : Type} {text : α → List Char} {closing : Char} {x y : List Char}

/-- What stands behind an item is a comma or the closing bracket. -/
theorem follows_tail (hclosing : closing ∈ closers) (items : List α) (rest : List Char) :
    Follows ((items.flatMap fun item => ',' :: ' ' :: text item) ++ closing :: rest) := by
  cases items with
  | nil => simpa [Follows] using hclosing
  | cons item items => simp [Follows, closers]

/-- Items behind commas, up to a closing bracket, determine the items. -/
theorem tail_append_injective (hclosing : closing ∈ closers) (hcomma : closing ≠ ',')
    {items others : List α} (hitems : ∀ item ∈ items, Determined text item)
    (h : (items.flatMap fun item => ',' :: ' ' :: text item) ++ closing :: x =
      (others.flatMap fun item => ',' :: ' ' :: text item) ++ closing :: y) :
    items = others ∧ x = y := by
  induction items generalizing others with
  | nil =>
    cases others with
    | nil => exact ⟨rfl, (List.cons.inj h).2⟩
    | cons other others => exact absurd (List.cons.inj h).1 hcomma
  | cons item items ih =>
    cases others with
    | nil => exact absurd (List.cons.inj h).1.symm hcomma
    | cons other others =>
      obtain ⟨hitem, hrest⟩ := List.forall_mem_cons.mp hitems
      simp only [List.flatMap_cons, List.cons_append, List.append_assoc, List.cons.injEq,
        true_and] at h
      obtain ⟨rfl, htail⟩ :=
        hitem other _ _ (follows_tail hclosing _ _) (follows_tail hclosing _ _) h
      obtain ⟨rfl, hend⟩ := ih hrest htail
      exact ⟨rfl, hend⟩

/-- Spaced items behind commas are the first one and the others behind commas and spaces. -/
theorem intercalate_spaced_cons (text : α → List Char) (item : α) (items : List α) :
    [','].intercalate (spaced ((item :: items).map text)) =
      text item ++ items.flatMap fun item => ',' :: ' ' :: text item := by
  rw [List.map_cons, spaced, Text.intercalate_cons_eq, List.map_map, List.flatMap_map]
  rfl

/-- Joined items up to a closing bracket determine the items. -/
theorem joined_append_injective (hclosing : closing ∈ closers) (hcomma : closing ≠ ',')
    {items others : List α} (hitems : ∀ item ∈ items, Determined text item)
    (hfirst : ∀ item, ∃ c rest, text item = c :: rest ∧ c ∉ closers)
    (h : [','].intercalate (spaced (items.map text)) ++ closing :: x =
      [','].intercalate (spaced (others.map text)) ++ closing :: y) :
    items = others ∧ x = y := by
  have hopen : ∀ (item : α) (rest z : List Char), text item ++ rest ≠ closing :: z := by
    intro item rest z heq
    obtain ⟨c, tail, htext, hc⟩ := hfirst item
    rw [htext] at heq
    exact hc ((List.cons.inj heq).1 ▸ hclosing)
  cases items with
  | nil =>
    cases others with
    | nil => exact ⟨rfl, (List.cons.inj h).2⟩
    | cons other others =>
      rw [intercalate_spaced_cons, List.append_assoc] at h
      exact absurd h.symm (hopen other _ _)
  | cons item items =>
    rw [intercalate_spaced_cons, List.append_assoc] at h
    cases others with
    | nil => exact absurd h (hopen item _ _)
    | cons other others =>
      obtain ⟨hitem, hrest⟩ := List.forall_mem_cons.mp hitems
      rw [intercalate_spaced_cons, List.append_assoc] at h
      obtain ⟨rfl, htail⟩ :=
        hitem other _ _ (follows_tail hclosing _ _) (follows_tail hclosing _ _) h
      obtain ⟨rfl, hend⟩ := tail_append_injective hclosing hcomma hrest htail
      exact ⟨rfl, hend⟩

end Joined

/-- The text of a number begins a bare text and does not end a value. -/
theorem ofFirst_of_isNumeral {c : Char} (h : isNumeral c = true) :
    Form.ofFirst c = .bare ∧ c ∉ closers := by
  have hne : ∀ mark, isNumeral mark = false → c ≠ mark := fun mark hmark heq =>
    Bool.false_ne_true (hmark.symm.trans (heq ▸ h))
  have hclosers : ∀ mark ∈ closers, isNumeral mark = false :=
    List.all_iff_forall_prop.mp (by decide)
  rw [Form.ofFirst, if_neg (hne '"' (by decide)), if_neg (hne '[' (by decide)),
    if_neg (hne '\x7b' (by decide))]
  exact ⟨rfl, fun hmem => hne c (hclosers c hmem) rfl⟩

/-- The first character of a value's text tells its form and does not end a value. -/
theorem exists_first (value : Value) :
    ∃ c rest, nestedText value = c :: rest ∧ Form.ofFirst c = formOf value ∧ c ∉ closers := by
  cases value with
  | null =>
    rw [nestedText]
    exact ⟨_, _, rfl, rfl, by decide⟩
  | boolean value =>
    rw [nestedText]
    cases value <;> exact ⟨_, _, rfl, rfl, by decide⟩
  | number number =>
    rw [nestedText]
    obtain ⟨hne, hchars⟩ := number.text_chars
    obtain ⟨c, rest, htext⟩ := List.exists_cons_of_ne_nil hne
    exact ⟨c, rest, htext, ofFirst_of_isNumeral (hchars c (htext ▸ List.mem_cons_self))⟩
  | string text =>
    rw [nestedText]
    exact ⟨_, _, rfl, rfl, by decide⟩
  | array items =>
    rw [nestedText_array]
    exact ⟨_, _, rfl, rfl, by decide⟩
  | object fields =>
    rw [nestedText_object]
    exact ⟨_, _, rfl, rfl, by decide⟩

/-- Values that begin the same text have texts of one form. -/
theorem formOf_congr {value other : Value} {x y : List Char}
    (h : nestedText value ++ x = nestedText other ++ y) : formOf value = formOf other := by
  obtain ⟨c, rest, htext, hform, -⟩ := exists_first value
  obtain ⟨d, tail, hother, hform', -⟩ := exists_first other
  rw [htext, hother] at h
  rw [← hform, ← hform', (List.cons.inj h).1]

/-- A character of a bare text does not end a value. -/
theorem bare_chars {value : Value} (h : formOf value = .bare) :
    ∀ c ∈ nestedText value, c ∉ closers := by
  cases value with
  | null =>
    rw [nestedText]
    exact List.all_iff_forall_prop.mp (by decide)
  | boolean value =>
    rw [nestedText]
    cases value <;> exact List.all_iff_forall_prop.mp (by decide)
  | number number =>
    rw [nestedText]
    exact fun c hc => (ofFirst_of_isNumeral (number.text_chars.2 c hc)).2
  | string _ | array _ | object _ => cases h

/-- No number has the text of a literal. -/
theorem number_text_ne (number : Json.Number) {c : Char} (hc : isNumeral c = false)
    (rest : List Char) : number.text.toList ≠ c :: rest := fun h =>
  Bool.false_ne_true (hc.symm.trans (number.text_chars.2 c (h ▸ List.mem_cons_self)))

/-- Literals and numbers of the same text are the same. -/
theorem eq_of_bare {value other : Value} (hvalue : formOf value = .bare)
    (hother : formOf other = .bare) (h : nestedText value = nestedText other) : value = other := by
  cases value with
  | null =>
    cases other with
    | null => rfl
    | boolean other => cases other <;> simp [nestedText, booleanText] at h
    | number other =>
      rw [nestedText, nestedText] at h
      exact absurd h.symm (number_text_ne other (by decide) _)
    | string _ | array _ | object _ => cases hother
  | boolean value =>
    cases other with
    | null => cases value <;> simp [nestedText, booleanText] at h
    | boolean other => cases value <;> cases other <;> simp [nestedText, booleanText] at h ⊢
    | number other =>
      rw [nestedText, nestedText] at h
      cases value <;> exact absurd h.symm (number_text_ne other (by decide) _)
    | string _ | array _ | object _ => cases hother
  | number value =>
    cases other with
    | null =>
      rw [nestedText, nestedText] at h
      exact absurd h (number_text_ne value (by decide) _)
    | boolean other =>
      rw [nestedText, nestedText] at h
      cases other <;> exact absurd h (number_text_ne value (by decide) _)
    | number other =>
      rw [nestedText, nestedText] at h
      rw [Number.text_injective (String.toList_inj.mp h)]
    | string _ | array _ | object _ => cases hother
  | string _ | array _ | object _ => cases hvalue

/-- A literal or number is determined by what a text begins with. -/
theorem determined_of_bare {value : Value} (h : formOf value = .bare) :
    Determined nestedText value := by
  intro other x y hx hy htexts
  have hother : formOf other = .bare := (formOf_congr htexts).symm.trans h
  have hclass : ∀ {bare : Value}, formOf bare = .bare →
      ∀ c ∈ nestedText bare, (!closers.contains c) = true := fun hbare c hc => by
    simpa using bare_chars hbare c hc
  have hstop : ∀ {rest : List Char}, Follows rest →
      ∀ c ∈ rest.head?, (!closers.contains c) = false := fun hrest c hc => by
    simpa using hrest c hc
  obtain ⟨htext, hrest⟩ :=
    Text.append_inj_of_class (hclass h) (hstop hx) (hclass hother) (hstop hy) htexts
  exact ⟨eq_of_bare h hother htext, hrest⟩

/-- A field is determined by what a text begins with when its value is. -/
theorem determined_fieldText {field : String × Value} (h : Determined nestedText field.2) :
    Determined fieldText field := by
  intro other x y hx hy htexts
  rw [fieldText, fieldText, List.append_assoc, List.append_assoc] at htexts
  obtain ⟨hname, hvalue⟩ := quoteLiteral_append_injective htexts
  obtain ⟨hvalue, hrest⟩ := h other.2 x y hx hy (List.cons.inj hvalue).2
  exact ⟨Prod.ext hname hvalue, hrest⟩

/-- Every value is determined by what a text begins with. The other value has a text of the same
form, which leaves one case to compare each form with. -/
theorem determined_nestedText (value : Value) : Determined nestedText value := by
  induction value using nestedText.induct with
  | case1 => exact determined_of_bare rfl
  | case2 value => exact determined_of_bare rfl
  | case3 number => exact determined_of_bare rfl
  | case4 text =>
    intro other x y hx hy h
    have hform := formOf_congr h
    cases other with
    | string other =>
      rw [nestedText, nestedText] at h
      obtain ⟨rfl, hrest⟩ := quoteLiteral_append_injective h
      exact ⟨rfl, hrest⟩
    | null | boolean _ | number _ | array _ | object _ => cases hform
  | case5 items ih =>
    intro other x y hx hy h
    have hform := formOf_congr h
    cases other with
    | array others =>
      have hfirst : ∀ item, ∃ c rest, nestedText item = c :: rest ∧ c ∉ closers := fun item => by
        obtain ⟨c, rest, htext, -, hc⟩ := exists_first item
        exact ⟨c, rest, htext, hc⟩
      simp only [nestedText_array, List.cons_append, List.append_assoc, List.nil_append,
        List.cons.injEq, true_and] at h
      obtain ⟨rfl, hrest⟩ := joined_append_injective (by decide) (by decide) ih hfirst h
      exact ⟨rfl, hrest⟩
    | null | boolean _ | number _ | string _ | object _ => cases hform
  | case6 fields ih =>
    intro other x y hx hy h
    have hform := formOf_congr h
    cases other with
    | object others =>
      have hfields : ∀ field ∈ fields, Determined fieldText field := fun field hfield =>
        determined_fieldText (ih field hfield)
      have hfirst : ∀ field, ∃ c rest, fieldText field = c :: rest ∧ c ∉ closers := fun field =>
        ⟨_, _, rfl, by decide⟩
      simp only [nestedText_object, List.cons_append, List.append_assoc, List.nil_append,
        List.cons.injEq, true_and] at h
      obtain ⟨rfl, hrest⟩ := joined_append_injective (by decide) (by decide) hfields hfirst h
      exact ⟨rfl, hrest⟩
    | null | boolean _ | number _ | string _ | array _ => cases hform

/-- The raw text of an array or object is its text. -/
theorem rawText?_of_isNested {value : Value} (h : value.IsNested) :
    rawText? value = some (String.ofList (nestedText value)) := by
  cases value with
  | array _ | object _ => rfl
  | null | boolean _ | number _ | string _ => exact h.elim

/-- Arrays and objects with the same raw text are the same. More generally a text that begins with
the text of a value, up to its end, a comma or a closing bracket, determines the value and what
stands behind it. -/
theorem rendering_injective :
    (∀ value other, value.IsNested → other.IsNested → rawText? value = rawText? other →
      value = other) ∧
    ∀ value other x y, Follows x → Follows y →
      nestedText value ++ x = nestedText other ++ y → value = other ∧ x = y := by
  refine ⟨fun value other hvalue hother h => ?_, determined_nestedText⟩
  rw [rawText?_of_isNested hvalue, rawText?_of_isNested hother, Option.some.injEq] at h
  have htexts : nestedText value ++ [] = nestedText other ++ [] := by
    simpa using congrArg String.toList h
  have hend : Follows [] := fun c hc => by cases hc
  exact (determined_nestedText value other [] [] hend hend htexts).1

/-- A bracket in quotes does not end an array, and a comma in quotes does not divide its items. -/
theorem rendering_injective_quoted :
    (Value.array [.string "]", .number (.integer 1)] =
      .array (["]"].map .string ++ [.number (.integer 1)]) ∧ [','] = ",".toList) ∧
    rawText? (.array [.string "]", .number (.integer 1)]) ≠ rawText? (.array [.string "], 1"]) := by
  have hcomma : Follows [','] := by simp [Follows, closers]
  have harray : ∀ items, (Value.array items).IsNested := fun _ => trivial
  refine ⟨rendering_injective.2 _ _ _ _ hcomma hcomma rfl, fun h => ?_⟩
  have heq := rendering_injective.1 _ _ (harray _) (harray _) h
  simp at heq

end ApiDrift.Detection
