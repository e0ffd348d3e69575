import Mathlib.Data.List.Basic

/-!
# Where a text is joined and cut

Texts are joined by a separator. A text is cut behind the characters of a class that it begins with,
or before the first place of a mark; either way the two sides of the cut are determined by the whole
text.
-/

namespace ApiDrift.Text

/-- What stands in joined texts and not in the separator stands in one of the texts. -/
theorem mem_intercalate_iff {c : Char} {sep : List Char} (hsep : c ∉ sep)
    {texts : List (List Char)} : c ∈ sep.intercalate texts ↔ ∃ text ∈ texts, c ∈ text := by
  induction texts with
  | nil => simp
  | cons first rest ih =>
    cases rest with
    | nil => simp
    | cons second others =>
      rw [List.intercalate_cons_cons, List.mem_append, List.mem_append, ih]
      simp [hsep]

/-- Joined parts are the first one and every other one behind a separator. -/
theorem intercalate_cons_eq (sep : Char) (first : List Char) (rest : List (List Char)) :
    [sep].intercalate (first :: rest) = first ++ rest.flatMap fun part => sep :: part := by
  induction rest generalizing first with
  | nil => simp
  | cons second others ih =>
    rw [List.intercalate_cons_cons, ih, List.flatMap_cons, List.append_assoc]
    rfl

/-- Parts in front of other ones join to texts with a separator between them. -/
theorem intercalate_append {sep : Char} {front back : List (List Char)} (hfront : front ≠ [])
    (hback : back ≠ []) :
    [sep].intercalate (front ++ back) = [sep].intercalate front ++ sep :: [sep].intercalate back := by
  obtain ⟨first, rest, rfl⟩ := List.exists_cons_of_ne_nil hfront
  obtain ⟨second, others, rfl⟩ := List.exists_cons_of_ne_nil hback
  rw [List.cons_append, intercalate_cons_eq, intercalate_cons_eq, intercalate_cons_eq,
    List.flatMap_append, List.flatMap_cons, List.append_assoc, List.cons_append]

/-- Two cuts at a separator, in front of the first of which no other one stands, are one cut, or the
second cut is at a later separator. -/
theorem append_cons_eq_append_cons_iff {sep : Char} {a b p q : List Char} (ha : sep ∉ a) :
    a ++ sep :: p = b ++ sep :: q ↔
      (b = a ∧ q = p) ∨ ∃ between, b = a ++ sep :: between ∧ p = between ++ sep :: q := by
  constructor
  · intro h
    rcases List.append_eq_append_iff.mp h with ⟨rest, hb, hp⟩ | ⟨rest, hbefore, hq⟩
    · cases rest with
      | nil =>
        rw [List.append_nil] at hb
        exact .inl ⟨hb, ((List.cons.inj hp).2).symm⟩
      | cons c between =>
        obtain ⟨rfl, hrest⟩ := List.cons.inj hp
        exact .inr ⟨between, hb, hrest⟩
    · cases rest with
      | nil =>
        rw [List.append_nil] at hbefore
        exact .inl ⟨hbefore.symm, (List.cons.inj hq).2⟩
      | cons c between =>
        obtain ⟨rfl, -⟩ := List.cons.inj hq
        exact absurd (hbefore ▸ List.mem_append_right b List.mem_cons_self) ha
  · rintro (⟨rfl, rfl⟩ | ⟨between, rfl, rfl⟩)
    · rfl
    · rw [List.append_assoc, List.cons_append]

/-- What ends with a separator and begins joined texts, of which the second has no separator, begins
the first of them. -/
theorem prefix_of_prefix_append {sep : Char} {front first second : List Char}
    (hsecond : sep ∉ second) (h : front ++ [sep] <+: first ++ second) : front ++ [sep] <+: first := by
  obtain ⟨more, hmore⟩ := h
  rcases List.append_eq_append_iff.mp hmore with ⟨rest, hfirst, -⟩ | ⟨rest, hfront, htext⟩
  · exact ⟨rest, hfirst.symm⟩
  · rcases List.eq_nil_or_concat rest with rfl | ⟨before, last, rfl⟩
    · rw [List.append_nil] at hfront
      exact ⟨[], by rw [hfront, List.append_nil]⟩
    · rw [List.concat_eq_append, ← List.append_assoc] at hfront
      obtain rfl : sep = last := by simpa using (List.append_inj' hfront rfl).2
      exact absurd (by simp [htext]) hsecond

section Class

variable {p : Char → Bool} {front second back rest : List Char}

/-- A text is cut behind the characters of a class when none of them follows. -/
theorem span_class (hfront : ∀ c ∈ front, p c = true) (hback : ∀ c ∈ back.head?, p c = false) :
    (front ++ back).takeWhile p = front ∧ (front ++ back).dropWhile p = back := by
  rw [List.takeWhile_append_of_pos hfront, List.dropWhile_append_of_pos hfront]
  cases back with
  | nil => exact ⟨List.append_nil front, rfl⟩
  | cons c tail =>
    have hc : ¬p c = true := Bool.eq_false_iff.mp (hback c rfl)
    rw [List.takeWhile_cons_of_neg hc, List.dropWhile_cons_of_neg hc, List.append_nil]
    exact ⟨rfl, rfl⟩

/-- Texts of a class are determined by what they begin when no character of the class follows. -/
theorem append_inj_of_class (hfront : ∀ c ∈ front, p c = true)
    (hback : ∀ c ∈ back.head?, p c = false) (hsecond : ∀ c ∈ second, p c = true)
    (hrest : ∀ c ∈ rest.head?, p c = false) (h : front ++ back = second ++ rest) :
    front = second ∧ back = rest := by
  obtain ⟨hfirstTake, hfirstDrop⟩ := span_class hfront hback
  obtain ⟨hsecondTake, hsecondDrop⟩ := span_class hsecond hrest
  rw [h] at hfirstTake hfirstDrop
  exact ⟨hfirstTake.symm.trans hsecondTake, hfirstDrop.symm.trans hsecondDrop⟩

end Class

section Mark

variable {mark : Char} {front : List Char} (h : mark ∉ front)

include h

/-- No character of a text without a mark is the mark. -/
theorem bne_of_mem {c : Char} (hc : c ∈ front) : (c != mark) = true :=
  bne_iff_ne.mpr fun heq => h (heq ▸ hc)

/-- The first place of a mark is behind a text without it. -/
theorem span_mark (back : List Char) :
    (front ++ mark :: back).takeWhile (· != mark) = front ∧
      (front ++ mark :: back).dropWhile (· != mark) = mark :: back :=
  span_class (fun _ hc => bne_of_mem h hc) (by simp)

/-- A text without a mark is not cut. -/
theorem span_none :
    front.takeWhile (· != mark) = front ∧ front.dropWhile (· != mark) = [] := by
  have hcut := @span_class (· != mark) front [] (fun _ hc => bne_of_mem h hc) (by simp)
  rwa [List.append_nil] at hcut

end Mark

end ApiDrift.Text
