import ApiDrift.Proofs.Tag.Lines
import ApiDrift.Proofs.Tag.Nesting

/-!
# The grammar of list literals

A value is a bracketed list of values, an object of pairs of a key and a value, a quoted line, or a
bare integer or truth value, with blank characters allowed around each part. Keys are not looked at
as values: any text is a key that closes its quotes and brackets and has no delimiter outside of
them. A scan passes every value, so a literal is taken apart at its own delimiters and nowhere
else.
-/

namespace ApiDrift.Tag

/-- A value of the grammar, without blank characters around it. -/
inductive Value : List Char → Prop where
  /-- A list of values. -/
  | list {content : List Char} {elements : List (List Char)}
      (hcontent : Text.trim content = [','].intercalate elements)
      (helements : ∀ element ∈ elements, Value (Text.trim element)) :
      Value ('[' :: (content ++ [']']))
  /-- An object of pairs of a key and a value. -/
  | object {content : List Char} {pieces : List (List Char)}
      {pairs : List (List Char × List Char)}
      (hcontent : Text.trim content = [','].intercalate pieces)
      (hpairs : pieces.map Text.trim = pairs.map fun pair => pair.1 ++ '=' :: pair.2)
      (hkeys : ∀ pair ∈ pairs, Nested true pair.1)
      (hvalues : ∀ pair ∈ pairs, Value (Text.trim pair.2)) :
      Value ('{' :: (content ++ ['}']))
  /-- A line between quotes, whose own quotes are escaped. -/
  | quoted {inner : List Char} (hline : isLine inner = true) (hescaped : Escaped inner) :
      Value ('"' :: (inner ++ ['"']))
  /-- An integer or a truth value. -/
  | bare {text : List Char} (h : isInteger text = true ∨ isBoolean text = true) : Value text

/-- A value that is a list. -/
def ListLiteral (text : List Char) : Prop :=
  Value text ∧ text.head? = some '['

/-- The characters of an integer are digits and a minus sign. -/
theorem isDigit_or_minus_of_isInteger {text : List Char} (h : isInteger text = true) :
    text ≠ [] ∧ ∀ c ∈ text, isDigit c = true ∨ c = '-' := by
  unfold isInteger at h
  split at h
  · next digits =>
    obtain ⟨-, hdigits⟩ := Bool.and_eq_true_iff.mp h
    refine ⟨by simp, List.forall_mem_cons.mpr ⟨.inr rfl, fun c hc => .inl ?_⟩⟩
    exact List.all_eq_true.mp hdigits c hc
  · obtain ⟨hne, hdigits⟩ := Bool.and_eq_true_iff.mp h
    refine ⟨by simpa using hne, fun c hc => .inl ?_⟩
    exact List.all_eq_true.mp hdigits c hc

/-- Neither a digit nor the minus sign plays a part in a scan. -/
theorem notMem_of_isDigit_or_minus {c : Char} (h : isDigit c = true ∨ c = '-') :
    c ∉ marks ++ delimiters := by
  have hall : (marks ++ delimiters).all (fun c => !(isDigit c || c == '-')) = true := by decide
  intro hmem
  have hnot := List.all_eq_true.mp hall c hmem
  rcases h with hdigit | rfl
  · rw [hdigit] at hnot
    cases hnot
  · cases hnot

/-- A bare value has some character, and none of them plays a part in a scan. -/
theorem notMem_of_bare {text : List Char} (h : isInteger text = true ∨ isBoolean text = true) :
    text ≠ [] ∧ ∀ c ∈ text, c ∉ marks ++ delimiters := by
  rcases h with h | h
  · obtain ⟨hne, hchars⟩ := isDigit_or_minus_of_isInteger h
    exact ⟨hne, fun c hc => notMem_of_isDigit_or_minus (hchars c hc)⟩
  · have hwords : ["true".toList, "false".toList].all (fun word =>
        !word.isEmpty && word.all fun c => !(marks ++ delimiters).contains c) = true := by decide
    have hword : text ∈ ["true".toList, "false".toList] := by
      simpa only [List.mem_cons, List.not_mem_nil, or_false] using isBoolean_iff.mp h
    have hboth := List.all_eq_true.mp hwords text hword
    rw [Bool.and_eq_true, List.all_eq_true] at hboth
    refine ⟨by simpa using hboth.1, fun c hc => ?_⟩
    simpa only [Bool.not_eq_true', List.contains_eq_mem, decide_eq_false_iff_not] using hboth.2 c hc

/-- The empty text is no value. -/
theorem not_value_nil : ¬Value [] := by
  intro h
  generalize hnil : ([] : List Char) = text at h
  cases h with
  | bare h => exact (notMem_of_bare h).1 hnil.symm
  | _ => cases hnil

/-- A pair is passed whose value is. -/
theorem Inert.pair {least : Int} {delimiter : Char} {key value : List Char}
    (hkey : Nested true key) (hvalue : Inert least delimiter value)
    (hdelimiter : delimiter ∈ delimiters) (hleast : 0 ≤ least)
    (hcut : '=' ≠ delimiter ∨ 0 < least) : Inert least delimiter (key ++ '=' :: value) := by
  have hkey' : Inert least delimiter key := (hkey.inert hdelimiter).mono hleast
  have hequals : Inert least delimiter ['='] := .singleton (by decide) hcut
  exact hkey'.append (hequals.append hvalue)

/-- The pair that a piece of an object is. -/
theorem exists_pair_of_mem {pieces : List (List Char)} {pairs : List (List Char × List Char)}
    (hpairs : pieces.map Text.trim = pairs.map fun pair => pair.1 ++ '=' :: pair.2)
    {piece : List Char} (hpiece : piece ∈ pieces) :
    ∃ pair ∈ pairs, pair.1 ++ '=' :: pair.2 = Text.trim piece := by
  have hmem : Text.trim piece ∈ pairs.map fun pair => pair.1 ++ '=' :: pair.2 :=
    hpairs ▸ List.mem_map_of_mem hpiece
  exact List.mem_map.mp hmem

/-- A scan passes every value, at depth zero and above. -/
theorem Value.inert {text : List Char} (h : Value text) {delimiter : Char}
    (hdelimiter : delimiter ∈ delimiters) : Inert 0 delimiter text := by
  induction h with
  | @list content elements hcontent helements ih =>
    refine .bracketed .square (.of_trim ?_ hdelimiter) hdelimiter (Int.le_refl 0)
    rw [hcontent]
    refine .intercalate (by decide) fun element helement => ?_
    exact (Inert.of_trim (ih element helement) hdelimiter).mono Int.one_nonneg
  | @object content pieces pairs hcontent hpairs hkeys hvalues ih =>
    refine .bracketed .curly (.of_trim ?_ hdelimiter) hdelimiter (Int.le_refl 0)
    rw [hcontent]
    refine .intercalate (by decide) fun piece hpiece => .of_trim ?_ hdelimiter
    obtain ⟨pair, hpair, hpairtext⟩ := exists_pair_of_mem hpairs hpiece
    rw [← hpairtext]
    have hvalue := (Inert.of_trim (ih pair hpair) hdelimiter).mono Int.one_nonneg
    exact .pair (hkeys pair hpair) hvalue hdelimiter Int.one_nonneg (.inr Int.one_pos)
  | quoted hline hescaped => exact .quoted hescaped hdelimiter
  | bare h => exact .of_notMem (notMem_of_bare h).2 hdelimiter

end ApiDrift.Tag
