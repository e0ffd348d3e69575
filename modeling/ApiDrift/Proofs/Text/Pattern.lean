import ApiDrift.Text.Pattern
import Mathlib.Algebra.Order.BigOperators.Group.List

/-!
# The texts of a pattern

Which texts have the form of a pattern is said by recursion on the pattern: a repetition is a text
that can be divided into parts of the repeated form. The check finds every way to divide a text and
nothing else, so it decides this relation.
-/

namespace ApiDrift.Text

namespace Pattern

/-- A text has the form of a pattern. -/
def Matches : Pattern → List Char → Prop
  | .one allowed, text => ∃ c, allowed c = true ∧ text = [c]
  | .seq first second, text =>
    ∃ front back, first.Matches front ∧ second.Matches back ∧ text = front ++ back
  | .upTo most pattern, text =>
    ∃ parts : List (List Char), parts.length ≤ most ∧ (∀ part ∈ parts, pattern.Matches part) ∧
      text = parts.flatten
  | .many pattern, text =>
    ∃ parts : List (List Char), (∀ part ∈ parts, pattern.Matches part) ∧ text = parts.flatten

end Pattern

/-- What remains behind parts in a row is found by looking behind one part after another. -/
theorem mem_restsInRow_iff {rests : List Char → List (List Char)} {Part : List Char → Prop}
    (h : ∀ text rest, rest ∈ rests text ↔ ∃ front, Part front ∧ text = front ++ rest) {most : Nat}
    {text rest : List Char} :
    rest ∈ restsInRow rests most text ↔
      ∃ parts : List (List Char), parts.length ≤ most ∧ (∀ part ∈ parts, Part part) ∧
        text = parts.flatten ++ rest := by
  induction most generalizing text with
  | zero =>
    rw [restsInRow, List.mem_singleton]
    constructor
    · rintro rfl
      exact ⟨[], Nat.le_refl 0, by simp, rfl⟩
    · rintro ⟨parts, hlength, -, rfl⟩
      rw [List.length_eq_zero_iff.mp (Nat.le_zero.mp hlength), List.flatten_nil, List.nil_append]
  | succ most ih =>
    rw [restsInRow, List.mem_cons, List.mem_flatMap]
    constructor
    · rintro (rfl | ⟨behind, hbehind, hrest⟩)
      · exact ⟨[], Nat.zero_le _, by simp, rfl⟩
      · obtain ⟨first, hfirst, rfl⟩ := (h text behind).mp hbehind
        obtain ⟨parts, hlength, hparts, rfl⟩ := ih.mp hrest
        refine ⟨first :: parts, Nat.succ_le_succ hlength, List.forall_mem_cons.mpr ⟨hfirst, hparts⟩,
          ?_⟩
        rw [List.flatten_cons, List.append_assoc]
    · rintro ⟨parts, hlength, hparts, rfl⟩
      cases parts with
      | nil => exact .inl rfl
      | cons first parts =>
        obtain ⟨hfirst, hparts⟩ := List.forall_mem_cons.mp hparts
        refine .inr ⟨parts.flatten ++ rest, (h _ _).mpr ⟨first, hfirst, ?_⟩, ih.mpr ?_⟩
        · rw [List.flatten_cons, List.append_assoc]
        · exact ⟨parts, Nat.le_of_succ_le_succ hlength, hparts, rfl⟩

/-- Parts with some character are no more than the characters of their text. -/
theorem length_le_length_flatten {parts : List (List Char)} (h : ∀ part ∈ parts, part ≠ []) :
    parts.length ≤ parts.flatten.length := by
  have hpos : ∀ n ∈ parts.map List.length, 1 ≤ n :=
    List.forall_mem_map.mpr fun part hpart => List.length_pos_iff.mpr (h part hpart)
  rw [List.length_flatten, ← List.length_map List.length]
  exact List.length_le_sum_of_one_le _ hpos

namespace Pattern

variable {pattern : Pattern}

/-- What can remain of a text is exactly what stands behind a front of the form of the pattern. -/
theorem mem_rests_iff (text rest : List Char) :
    rest ∈ pattern.rests text ↔ ∃ front, pattern.Matches front ∧ text = front ++ rest := by
  induction pattern generalizing text rest with
  | one allowed =>
    cases text with
    | nil =>
      rw [rests]
      refine iff_of_false List.not_mem_nil ?_
      rintro ⟨_, ⟨c, -, rfl⟩, hnil⟩
      cases hnil
    | cons c text =>
      rw [rests]
      constructor
      · intro h
        split at h
        · next hc => exact ⟨[c], ⟨c, hc, rfl⟩, by rw [List.mem_singleton.mp h]; rfl⟩
        · cases h
      · rintro ⟨_, ⟨d, hd, rfl⟩, heq⟩
        obtain ⟨rfl, rfl⟩ := List.cons.inj heq
        rw [if_pos hd]
        exact List.mem_singleton_self _
  | seq first second ihFirst ihSecond =>
    rw [rests, List.mem_flatMap]
    constructor
    · rintro ⟨behind, hbehind, hrest⟩
      obtain ⟨front, hfront, rfl⟩ := (ihFirst _ _).mp hbehind
      obtain ⟨back, hback, rfl⟩ := (ihSecond _ _).mp hrest
      exact ⟨front ++ back, ⟨front, back, hfront, hback, rfl⟩, (List.append_assoc _ _ _).symm⟩
    · rintro ⟨_, ⟨front, back, hfront, hback, rfl⟩, rfl⟩
      refine ⟨back ++ rest, (ihFirst _ _).mpr ⟨front, hfront, List.append_assoc _ _ _⟩, ?_⟩
      exact (ihSecond _ _).mpr ⟨back, hback, rfl⟩
  | upTo most pattern ih =>
    rw [rests, mem_restsInRow_iff ih]
    constructor
    · rintro ⟨parts, hlength, hparts, rfl⟩
      exact ⟨_, ⟨parts, hlength, hparts, rfl⟩, rfl⟩
    · rintro ⟨_, ⟨parts, hlength, hparts, rfl⟩, rfl⟩
      exact ⟨parts, hlength, hparts, rfl⟩
  | many pattern ih =>
    rw [rests, mem_restsInRow_iff ih]
    constructor
    · rintro ⟨parts, -, hparts, rfl⟩
      exact ⟨_, ⟨parts, hparts, rfl⟩, rfl⟩
    · rintro ⟨_, ⟨parts, hparts, rfl⟩, rfl⟩
      have hne : ∀ part ∈ parts.filter fun part => part ≠ [], part ≠ [] := by simp
      have hlength := length_le_length_flatten hne
      rw [List.flatten_filter_ne_nil] at hlength
      refine ⟨parts.filter fun part => part ≠ [], ?_, fun part hpart => ?_, ?_⟩
      · rw [List.length_append]
        omega
      · exact hparts part (List.mem_filter.mp hpart).1
      · rw [List.flatten_filter_ne_nil]

/-- The check of a text decides whether it has the form of a pattern. -/
theorem accepts_iff {text : List Char} : pattern.accepts text = true ↔ pattern.Matches text := by
  rw [accepts, List.any_eq_true]
  constructor
  · rintro ⟨rest, hrest, hempty⟩
    obtain ⟨front, hfront, rfl⟩ := (mem_rests_iff _ _).mp hrest
    rwa [List.isEmpty_iff.mp hempty, List.append_nil]
  · intro h
    exact ⟨[], (mem_rests_iff _ _).mpr ⟨text, h, (List.append_nil _).symm⟩, rfl⟩

/-- A given character has the form of itself. -/
@[simp] theorem matches_char_iff {c : Char} {text : List Char} :
    (char c).Matches text ↔ text = [c] := by
  simp [char, Matches]

/-- Parts of one character each make a text of as many characters. -/
theorem flatten_of_matches_one {allowed : Char → Bool} {parts : List (List Char)}
    (h : ∀ part ∈ parts, (one allowed).Matches part) :
    parts.flatten.length = parts.length ∧ ∀ c ∈ parts.flatten, allowed c = true := by
  induction parts with
  | nil => simp
  | cons first rest ih =>
    obtain ⟨⟨c, hc, rfl⟩, hrest⟩ := List.forall_mem_cons.mp h
    obtain ⟨hlength, hall⟩ := ih hrest
    rw [List.flatten_cons, List.singleton_append, List.length_cons, List.length_cons, hlength]
    exact ⟨rfl, List.forall_mem_cons.mpr ⟨hc, hall⟩⟩

/-- A text of a class is divided into its characters. -/
theorem exists_matches_one {allowed : Char → Bool} {text : List Char}
    (h : ∀ c ∈ text, allowed c = true) :
    ∃ parts : List (List Char), parts.length = text.length ∧
      (∀ part ∈ parts, (one allowed).Matches part) ∧ text = parts.flatten := by
  refine ⟨text.map fun c => [c], List.length_map _, ?_, ?_⟩
  · exact List.forall_mem_map.mpr fun c hc => ⟨c, h c hc, rfl⟩
  · rw [← List.flatMap_def, List.flatMap_singleton']

/-- A text of characters of a class is a repetition of such characters. -/
theorem matches_many_one_iff {allowed : Char → Bool} {text : List Char} :
    (many (one allowed)).Matches text ↔ ∀ c ∈ text, allowed c = true := by
  constructor
  · rintro ⟨parts, hparts, rfl⟩
    exact (flatten_of_matches_one hparts).2
  · intro h
    obtain ⟨parts, -, hparts, htext⟩ := exists_matches_one h
    exact ⟨parts, hparts, htext⟩

/-- A bounded text of characters of a class is a bounded repetition of such characters. -/
theorem matches_upTo_one_iff {allowed : Char → Bool} {most : Nat} {text : List Char} :
    (upTo most (one allowed)).Matches text ↔
      text.length ≤ most ∧ ∀ c ∈ text, allowed c = true := by
  constructor
  · rintro ⟨parts, hlength, hparts, rfl⟩
    obtain ⟨hsame, hall⟩ := flatten_of_matches_one hparts
    exact ⟨hsame ▸ hlength, hall⟩
  · rintro ⟨hlength, h⟩
    obtain ⟨parts, hsame, hparts, htext⟩ := exists_matches_one h
    exact ⟨parts, hsame ▸ hlength, hparts, htext⟩

/-- One or more characters of a class are a text of this class that is not empty. -/
theorem matches_oneOrMore_one_iff {allowed : Char → Bool} {text : List Char} :
    (oneOrMore (one allowed)).Matches text ↔ text ≠ [] ∧ ∀ c ∈ text, allowed c = true := by
  constructor
  · rintro ⟨_, back, ⟨c, hc, rfl⟩, hback, rfl⟩
    exact ⟨List.cons_ne_nil _ _, List.forall_mem_cons.mpr ⟨hc, matches_many_one_iff.mp hback⟩⟩
  · rintro ⟨hne, h⟩
    obtain ⟨c, rest, rfl⟩ := List.exists_cons_of_ne_nil hne
    obtain ⟨hc, hrest⟩ := List.forall_mem_cons.mp h
    exact ⟨[c], rest, ⟨c, hc, rfl⟩, matches_many_one_iff.mpr hrest, rfl⟩

/-- An optional text is no text or one of the form. -/
theorem matches_optional_iff {text : List Char} :
    (optional pattern).Matches text ↔ text = [] ∨ pattern.Matches text := by
  constructor
  · rintro ⟨parts, hlength, hparts, rfl⟩
    match parts with
    | [] => exact .inl rfl
    | [part] =>
      rw [List.flatten_singleton]
      exact .inr (hparts part (List.mem_singleton_self part))
    | _ :: _ :: _ =>
      simp only [List.length_cons] at hlength
      omega
  · rintro (rfl | h)
    · exact ⟨[], Nat.zero_le 1, by simp, rfl⟩
    · exact ⟨[text], Nat.le_refl 1, by simpa using h, by simp⟩

/-- One or more texts of a form in a row are any number of them that is not zero. -/
theorem matches_oneOrMore_iff {text : List Char} :
    (oneOrMore pattern).Matches text ↔
      ∃ parts : List (List Char), 1 ≤ parts.length ∧ (∀ part ∈ parts, pattern.Matches part) ∧
        text = parts.flatten := by
  constructor
  · rintro ⟨first, _, hfirst, ⟨rest, hrest, rfl⟩, rfl⟩
    exact ⟨first :: rest, Nat.succ_pos _, List.forall_mem_cons.mpr ⟨hfirst, hrest⟩, rfl⟩
  · rintro ⟨parts, hlength, hparts, rfl⟩
    obtain ⟨first, rest, rfl⟩ := List.exists_cons_of_length_pos hlength
    obtain ⟨hfirst, hrest⟩ := List.forall_mem_cons.mp hparts
    exact ⟨first, rest.flatten, hfirst, ⟨rest, hrest, rfl⟩, rfl⟩

/-- Texts that begin with a separator are texts with the separator put in front of them. -/
theorem forall_matches_behind_iff {sep : Char} {parts : List (List Char)} :
    (∀ part ∈ parts, (seq (char sep) pattern).Matches part) ↔
      ∃ texts : List (List Char), (∀ text ∈ texts, pattern.Matches text) ∧
        parts = texts.map fun text => sep :: text := by
  constructor
  · intro h
    induction parts with
    | nil => exact ⟨[], by simp, rfl⟩
    | cons first rest ih =>
      obtain ⟨⟨mark, text, hmark, htext, rfl⟩, hrest⟩ := List.forall_mem_cons.mp h
      obtain ⟨texts, htexts, rfl⟩ := ih hrest
      rw [matches_char_iff.mp hmark]
      exact ⟨text :: texts, List.forall_mem_cons.mpr ⟨htext, htexts⟩, rfl⟩
  · rintro ⟨texts, htexts, rfl⟩
    exact List.forall_mem_map.mpr fun text htext =>
      ⟨[sep], text, matches_char_iff.mpr rfl, htexts text htext, rfl⟩

end Pattern

end ApiDrift.Text
