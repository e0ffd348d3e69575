import ApiDrift.Suggestion.Distance
import Mathlib.Order.Bounds.Basic
import Mathlib.Order.MinMax

/-!
# Edits of texts

An edit inserts, deletes or substitutes one character of a text at any place. The edit distance of
two texts, defined by recursion on their first characters, is the least number of edits that turn
one into the other, and so a metric.
-/

namespace ApiDrift.Suggestion

/-- A text and what one edit makes of it. -/
inductive Edit : List Char → List Char → Prop where
  | insertion (front : List Char) (c : Char) (back : List Char) :
    Edit (front ++ back) (front ++ c :: back)
  | deletion (front : List Char) (c : Char) (back : List Char) :
    Edit (front ++ c :: back) (front ++ back)
  | substitution (front : List Char) (c d : Char) (back : List Char) :
    Edit (front ++ c :: back) (front ++ d :: back)

/-- A text and what a number of edits, one after the other, make of it. -/
inductive Edits : Nat → List Char → List Char → Prop where
  | none (a : List Char) : Edits 0 a a
  | more {n : Nat} {a b c : List Char} : Edit a b → Edits n b c → Edits (n + 1) a c

/-- The edit distance of two texts. If both have a first character, that of the one is deleted,
that of the other is inserted, or the one becomes the other. -/
def editDistance : List Char → List Char → Nat
  | [], b => b.length
  | c :: a, [] => (c :: a).length
  | c :: a, d :: b =>
    min (min (editDistance a (d :: b) + 1) (editDistance (c :: a) b + 1))
      (editDistance a b + if c = d then 0 else 1)
termination_by a b => a.length + b.length

section Sequences

variable {m n : Nat} {a b : List Char}

namespace Edit

/-- An edit can be made behind one more character. -/
theorem cons (c : Char) (h : Edit a b) : Edit (c :: a) (c :: b) := by
  cases h with
  | insertion front d back => exact .insertion (c :: front) d back
  | deletion front d back => exact .deletion (c :: front) d back
  | substitution front d e back => exact .substitution (c :: front) d e back

/-- An edit can be undone. -/
theorem symm (h : Edit a b) : Edit b a := by
  cases h with
  | insertion front c back => exact .deletion front c back
  | deletion front c back => exact .insertion front c back
  | substitution front c d back => exact .substitution front d c back

/-- An edit can be made from the other end. -/
theorem reverse (h : Edit a b) : Edit a.reverse b.reverse := by
  cases h with
  | insertion front c back =>
    simpa using Edit.insertion back.reverse c front.reverse
  | deletion front c back =>
    simpa using Edit.deletion back.reverse c front.reverse
  | substitution front c d back =>
    simpa using Edit.substitution back.reverse c d front.reverse

end Edit

namespace Edits

/-- What one edit makes of a text. -/
theorem one (h : Edit a b) : Edits 1 a b :=
  .more h (.none b)

/-- Edits behind edits. -/
theorem trans {c : List Char} (h : Edits m a b) (hnext : Edits n b c) : Edits (m + n) a c := by
  induction h with
  | none a => simpa using hnext
  | @more k a b c hfirst hrest ih =>
    rw [Nat.add_right_comm]
    exact .more hfirst (ih hnext)

/-- Edits can be made behind one more character. -/
theorem cons (c : Char) (h : Edits n a b) : Edits n (c :: a) (c :: b) := by
  induction h with
  | none a => exact .none (c :: a)
  | more hfirst _ ih => exact .more (hfirst.cons c) ih

/-- Edits can be undone. -/
theorem symm (h : Edits n a b) : Edits n b a := by
  induction h with
  | none a => exact .none a
  | more hfirst _ ih => exact ih.trans (one hfirst.symm)

/-- Edits can be made from the other end. -/
theorem reverse (h : Edits n a b) : Edits n a.reverse b.reverse := by
  induction h with
  | none a => exact .none a.reverse
  | more hfirst _ ih => exact .more hfirst.reverse ih

/-- Without any edit a text stays the same. -/
theorem eq_of_zero (h : Edits 0 a b) : a = b := by
  cases h with
  | none a => rfl

/-- A text is made of the empty one by inserting its characters. -/
theorem of_nil (b : List Char) : Edits b.length [] b := by
  induction b with
  | nil => exact .none []
  | cons d b ih => exact ih.trans (one (.insertion [] d b))

end Edits

end Sequences

section Distance

variable {n : Nat} {a b : List Char}

@[simp]
theorem editDistance_nil_left (b : List Char) : editDistance [] b = b.length := by
  rw [editDistance]

@[simp]
theorem editDistance_nil_right (a : List Char) : editDistance a [] = a.length := by
  cases a <;> rw [editDistance]

theorem editDistance_cons_cons (c d : Char) (a b : List Char) :
    editDistance (c :: a) (d :: b) =
      min (min (editDistance a (d :: b) + 1) (editDistance (c :: a) b + 1))
        (editDistance a b + if c = d then 0 else 1) := by
  rw [editDistance]

/-- As many edits as the distance says are enough. -/
theorem edits_editDistance (a b : List Char) : Edits (editDistance a b) a b := by
  induction a, b using editDistance.induct with
  | case1 b => simpa using Edits.of_nil b
  | case2 c a => simpa using (Edits.of_nil (c :: a)).symm
  | case3 c a d b hdelete hinsert hboth =>
    rw [editDistance_cons_cons]
    rcases min_choice (min (editDistance a (d :: b) + 1) (editDistance (c :: a) b + 1))
      (editDistance a b + if c = d then 0 else 1) with h | h
    · rw [h]
      rcases min_choice (editDistance a (d :: b) + 1) (editDistance (c :: a) b + 1) with h | h
      · rw [h]
        exact .more (.deletion [] c a) hdelete
      · rw [h]
        exact hinsert.trans (.one (.insertion [] d b))
    · rw [h]
      split
      next heq =>
        subst heq
        exact hboth.cons c
      next =>
        exact (hboth.cons c).trans (.one (.substitution [] c d b))

/-- One more character in front adds no more than one. -/
theorem editDistance_cons_le (c : Char) (a b : List Char) :
    editDistance (c :: a) b ≤ editDistance a b + 1 := by
  cases b with
  | nil => simp
  | cons d b =>
    rw [editDistance_cons_cons]
    omega

/-- One more character in front of the other text adds no more than one. -/
theorem editDistance_le_cons_right (a : List Char) (d : Char) (b : List Char) :
    editDistance a (d :: b) ≤ editDistance a b + 1 := by
  cases a with
  | nil => simp
  | cons c a =>
    rw [editDistance_cons_cons]
    omega

/-- One more character in front takes away no more than one. -/
theorem editDistance_le_cons (c : Char) (a b : List Char) :
    editDistance a b ≤ editDistance (c :: a) b + 1 := by
  induction b with
  | nil =>
    simp only [editDistance_nil_right, List.length_cons]
    omega
  | cons d b ih =>
    have hinsert := editDistance_le_cons_right a d b
    rw [editDistance_cons_cons]
    omega

/-- Another first character changes the distance by no more than one. -/
theorem editDistance_cons_le_cons (c d : Char) (a b : List Char) :
    editDistance (c :: a) b ≤ editDistance (d :: a) b + 1 := by
  induction b with
  | nil => simp
  | cons e b ih =>
    rw [editDistance_cons_cons c, editDistance_cons_cons d]
    split <;> omega

/-- Texts whose distances differ by no more than one keep that behind one more character. -/
theorem editDistance_cons_congr (c : Char)
    (h : ∀ other, editDistance a other ≤ editDistance b other + 1) (other : List Char) :
    editDistance (c :: a) other ≤ editDistance (c :: b) other + 1 := by
  induction other with
  | nil =>
    have hlength := h []
    simp only [editDistance_nil_right] at hlength
    simpa using hlength
  | cons d other ih =>
    have hlong := h (d :: other)
    have hshort := h other
    rw [editDistance_cons_cons, editDistance_cons_cons]
    omega

/-- An edit changes no distance by more than one. -/
theorem Edit.editDistance_le (h : Edit a b) (other : List Char) :
    editDistance a other ≤ editDistance b other + 1 := by
  cases h with
  | insertion front c back =>
    induction front generalizing other with
    | nil => exact editDistance_le_cons c back other
    | cons d front ih => exact editDistance_cons_congr d ih other
  | deletion front c back =>
    induction front generalizing other with
    | nil => exact editDistance_cons_le c back other
    | cons d front ih => exact editDistance_cons_congr d ih other
  | substitution front c d back =>
    induction front generalizing other with
    | nil => exact editDistance_cons_le_cons c d back other
    | cons e front ih => exact editDistance_cons_congr e ih other

/-- Edits change no distance by more than their number. -/
theorem Edits.editDistance_le (h : Edits n a b) (other : List Char) :
    editDistance a other ≤ editDistance b other + n := by
  induction h with
  | none a => exact Nat.le_refl _
  | more hfirst _ ih =>
    have hone := hfirst.editDistance_le other
    omega

theorem editDistance_self (a : List Char) : editDistance a a = 0 := by
  induction a with
  | nil => simp
  | cons c a ih =>
    rw [editDistance_cons_cons, ih, if_pos rfl]
    simp

/-- The distance is the least number of edits that turn one text into the other. -/
theorem isLeast_editDistance (a b : List Char) :
    IsLeast {n | Edits n a b} (editDistance a b) := by
  refine ⟨edits_editDistance a b, fun n h => ?_⟩
  simpa [editDistance_self] using h.editDistance_le b

theorem editDistance_comm (a b : List Char) : editDistance a b = editDistance b a := by
  apply Nat.le_antisymm
  · exact (isLeast_editDistance a b).2 (edits_editDistance b a).symm
  · exact (isLeast_editDistance b a).2 (edits_editDistance a b).symm

theorem editDistance_eq_zero_iff : editDistance a b = 0 ↔ a = b := by
  constructor
  · intro h
    have hedits := edits_editDistance a b
    rw [h] at hedits
    exact hedits.eq_of_zero
  · rintro rfl
    exact editDistance_self a

theorem editDistance_triangle (a b c : List Char) :
    editDistance a c ≤ editDistance a b + editDistance b c :=
  (isLeast_editDistance a c).2 ((edits_editDistance a b).trans (edits_editDistance b c))

/-- It does not matter from which end two texts are read. -/
theorem editDistance_reverse (a b : List Char) :
    editDistance a.reverse b.reverse = editDistance a b := by
  apply Nat.le_antisymm
  · exact (isLeast_editDistance _ _).2 (edits_editDistance a b).reverse
  · have hedits := (edits_editDistance a.reverse b.reverse).reverse
    rw [List.reverse_reverse, List.reverse_reverse] at hedits
    exact (isLeast_editDistance a b).2 hedits

/-- No texts are farther apart than the longer one is long. -/
theorem editDistance_le_length (a b : List Char) : editDistance a b ≤ max a.length b.length := by
  induction a, b using editDistance.induct with
  | case1 b => simp
  | case2 c a => simp
  | case3 c a d b _ _ hboth =>
    have hcost : (if c = d then 0 else 1) ≤ 1 := by
      split <;> decide
    rw [editDistance_cons_cons]
    simp only [List.length_cons]
    omega

/-- Texts without a common character are as far apart as the longer one is long. -/
theorem editDistance_eq_length (h : ∀ c ∈ a, c ∉ b) :
    editDistance a b = max a.length b.length := by
  apply Nat.le_antisymm (editDistance_le_length a b)
  induction a, b using editDistance.induct with
  | case1 b => simp
  | case2 c a => simp
  | case3 c a d b hdelete hinsert hboth =>
    have hne : c ≠ d := fun heq => h c List.mem_cons_self (heq ▸ List.mem_cons_self)
    have hdelete := hdelete fun e he => h e (List.mem_cons_of_mem c he)
    have hinsert := hinsert fun e he hmem => h e he (List.mem_cons_of_mem d hmem)
    have hboth := hboth fun e he hmem =>
      h e (List.mem_cons_of_mem c he) (List.mem_cons_of_mem d hmem)
    rw [editDistance_cons_cons, if_neg hne]
    simp only [List.length_cons] at hdelete hinsert ⊢
    omega

end Distance

end ApiDrift.Suggestion
