import ApiDrift.Json.Value
import ApiDrift.Tag.Scalar
import ApiDrift.Text.Blank
import Mathlib.Data.Bool.AllAny
import Mathlib.Data.List.Count

/-!
# The characters of numbers

The text of an integer is decimal digits behind at most one minus sign. The text of a double has a
point or an exponent, and no more than two minus signs.
-/

namespace ApiDrift.Number

open Tag (isDigit)

/-- The characters of numbers other than digits. -/
def numeralMarks : List Char := ['-', '+', '.', 'e']

/-- Whether a character may stand in the text of a number. -/
def isNumeral (c : Char) : Bool :=
  isDigit c || numeralMarks.contains c

/-- Digits stand in the texts of numbers. -/
theorem isNumeral_of_isDigit {c : Char} (h : isDigit c = true) : isNumeral c = true := by
  rw [isNumeral, h, Bool.true_or]

/-- No character of a number is blank. -/
theorem isBlank_of_isNumeral {c : Char} (h : isNumeral c = true) : Text.isBlank c = false := by
  rcases Bool.or_eq_true_iff.mp h with hdigit | hmark
  · have hrange : 48 ≤ c.toNat ∧ c.toNat ≤ 57 := by
      simpa [isDigit, Char.le_def, UInt32.le_iff_toNat_le] using hdigit
    have hspace : c ≠ ' ' := by
      rintro rfl
      exact absurd hdigit (by decide)
    rw [Text.isBlank, if_pos (by omega)]
    simp only [Bool.or_eq_false_iff, beq_eq_false_iff_ne, ne_eq, hspace, not_false_eq_true,
      Bool.and_eq_false_iff, decide_eq_false_iff_not, true_and]
    omega
  · have hall : numeralMarks.all (fun mark => !Text.isBlank mark) = true := by decide
    simpa using List.all_eq_true.mp hall c (by simpa using hmark)

/-- Decimal digits are digits. -/
theorem isDigit_of_mem_digitsOf {n : Nat} {c : Char} (h : c ∈ digitsOf n) : isDigit c = true := by
  have hdigit : c.isDigit = true := Nat.isDigit_of_mem_toDigits (by decide) (by decide) h
  simpa [Char.isDigit, isDigit, Char.le_def] using hdigit

/-- Every number has some digit. -/
theorem digitsOf_ne_nil (n : Nat) : digitsOf n ≠ [] :=
  Nat.toDigits_ne_nil

/-- There is no minus sign among digits and points. -/
theorem count_minus_eq_zero {text : List Char} (h : ∀ c ∈ text, isDigit c = true ∨ c = '.') :
    text.count '-' = 0 := by
  refine List.count_eq_zero_of_not_mem fun hmem => ?_
  rcases h _ hmem with hdigit | hpoint
  · exact absurd hdigit (by decide)
  · exact absurd hpoint (by decide)

section Forms

variable {digits : List Char} (h : ∀ c ∈ digits, isDigit c = true)

include h

/-- In positional form there are digits and a point. -/
theorem positional_chars (whole : Int) :
    (∀ c ∈ positional digits whole, isDigit c = true ∨ c = '.') ∧
      '.' ∈ positional digits whole := by
  have hzeros : ∀ n, ∀ c ∈ List.replicate n '0', isDigit c = true := by
    intro n c hc
    rw [List.eq_of_mem_replicate hc]
    decide
  unfold positional
  split
  · refine ⟨fun c hc => ?_, by simp⟩
    rcases List.mem_append.mp hc with hc | hc
    · rcases List.mem_append.mp hc with hc | hc
      · have hfront : ∀ d ∈ ['0', '.'], isDigit d = true ∨ d = '.' :=
          List.all_iff_forall_prop.mp (by decide)
        exact hfront c hc
      · exact .inl (hzeros _ c hc)
    · exact .inl (h c hc)
  · split
    · refine ⟨fun c hc => ?_, by simp⟩
      rcases List.mem_append.mp hc with hc | hc
      · rcases List.mem_append.mp hc with hc | hc
        · exact .inl (h c hc)
        · exact .inl (hzeros _ c hc)
      · have hback : ∀ d ∈ ['.', '0'], isDigit d = true ∨ d = '.' :=
          List.all_iff_forall_prop.mp (by decide)
        exact hback c hc
    · refine ⟨fun c hc => ?_, by simp⟩
      rcases List.mem_append.mp hc with hc | hc
      · exact .inl (h c (List.mem_of_mem_take hc))
      · rcases List.mem_cons.mp hc with hc | hc
        · exact .inr hc
        · exact .inl (h c (List.mem_of_mem_drop hc))

/-- In scientific form there is a mantissa of digits and maybe a point, and an exponent with a
sign. -/
theorem scientific_eq (power : Int) :
    ∃ mantissa sign exponent, scientific digits power = mantissa ++ 'e' :: sign :: exponent ∧
      (∀ c ∈ mantissa, isDigit c = true ∨ c = '.') ∧ (sign = '-' ∨ sign = '+') ∧
        ∀ c ∈ exponent, isDigit c = true := by
  refine ⟨_, _, _, rfl, ?_, ?_, fun c => isDigit_of_mem_digitsOf⟩
  · split
    · next first second rest =>
      intro c hc
      simp only [List.mem_cons] at hc h
      rcases hc with rfl | rfl | hc
      · exact .inl (h _ (.inl rfl))
      · exact .inr rfl
      · exact .inl (h _ (.inr hc))
    · exact fun c hc => .inl (h c hc)
  · split
    · exact .inl rfl
    · exact .inr rfl

end Forms

/-- The text of a double that is not negative: numerals, no more than one minus sign, and a point
or an exponent. -/
theorem magnitude_chars (x : Double) :
    let text := if x.rank = 0 then ['0', '.', '0'] else x.shortest.text
    (∀ c ∈ text, isNumeral c = true) ∧ text.count '-' ≤ 1 ∧ ('.' ∈ text ∨ 'e' ∈ text) := by
  have hclass : ∀ c, isDigit c = true ∨ c = '.' → isNumeral c = true := by
    rintro c (hdigit | rfl)
    · exact isNumeral_of_isDigit hdigit
    · decide
  dsimp only
  split
  · exact ⟨List.all_iff_forall_prop.mp (by decide), by decide, by decide⟩
  · have hdigits : ∀ c ∈ digitsOf x.shortest.digits, isDigit c = true :=
      fun c => isDigit_of_mem_digitsOf
    unfold Decimal.text
    dsimp only
    split
    · obtain ⟨hchars, hpoint⟩ := positional_chars hdigits
        ((digitsOf x.shortest.digits).length + x.shortest.exponent)
      refine ⟨fun c hc => hclass c (hchars c hc), ?_, .inl hpoint⟩
      rw [count_minus_eq_zero hchars]
      exact Nat.zero_le 1
    · obtain ⟨mantissa, sign, exponent, htext, hmantissa, hsign, hexponent⟩ :=
        scientific_eq hdigits ((digitsOf x.shortest.digits).length + x.shortest.exponent - 1)
      rw [htext]
      refine ⟨fun c hc => ?_, ?_, .inr (by simp)⟩
      · rw [List.mem_append, List.mem_cons, List.mem_cons] at hc
        rcases hc with hc | rfl | rfl | hc
        · exact hclass c (hmantissa c hc)
        · decide
        · rcases hsign with rfl | rfl <;> decide
        · exact isNumeral_of_isDigit (hexponent c hc)
      · have hfront := count_minus_eq_zero hmantissa
        have hback := count_minus_eq_zero fun c hc => .inl (hexponent c hc)
        rw [List.count_append, List.count_cons, List.count_cons, hfront, hback]
        split <;> simp

/-- The text of a double: numerals, no more than two minus signs, and a point or an exponent. -/
theorem Double.text_chars (x : Double) :
    x.text ≠ [] ∧ (∀ c ∈ x.text, isNumeral c = true) ∧ x.text.count '-' ≤ 2 ∧
      ('.' ∈ x.text ∨ 'e' ∈ x.text) := by
  obtain ⟨hchars, hcount, hmark⟩ := magnitude_chars x
  have hmark' : '.' ∈ x.text ∨ 'e' ∈ x.text :=
    hmark.imp (List.mem_append_right _) (List.mem_append_right _)
  refine ⟨?_, fun c hc => ?_, ?_, hmark'⟩
  · rcases hmark' with h | h <;> exact List.ne_nil_of_mem h
  · rcases List.mem_append.mp hc with hc | hc
    · split at hc
      · rw [List.mem_singleton.mp hc]
        decide
      · cases hc
    · exact hchars c hc
  · have hsign : (if x.negative then ['-'] else []).count '-' ≤ 1 := by split <;> decide
    rw [Double.text, List.count_append]
    exact Nat.add_le_add hsign hcount

end ApiDrift.Number

namespace ApiDrift.Json

open ApiDrift.Number (digitsOf digitsOf_ne_nil isDigit_of_mem_digitsOf isNumeral
  isNumeral_of_isDigit count_minus_eq_zero)
open Tag (isInteger)

/-- The text of an integer is an integer. -/
theorem isInteger_integerText (value : Int) : isInteger (integerText value) = true := by
  have hdigits : ∀ n, (!(digitsOf n).isEmpty && (digitsOf n).all Tag.isDigit) = true := by
    intro n
    rw [Bool.and_eq_true, List.all_eq_true]
    exact ⟨by simpa using digitsOf_ne_nil n, fun c => isDigit_of_mem_digitsOf⟩
  unfold integerText
  split
  · exact hdigits _
  · unfold isInteger
    split
    · next digits heq =>
      have hminus : Tag.isDigit '-' = true := isDigit_of_mem_digitsOf (heq ▸ List.mem_cons_self)
      exact absurd hminus (by decide)
    · exact hdigits _

/-- The text of an integer has some character, and all are numerals. -/
theorem integerText_chars (value : Int) :
    integerText value ≠ [] ∧ ∀ c ∈ integerText value, isNumeral c = true := by
  have hdigits : ∀ c ∈ digitsOf value.natAbs, isNumeral c = true :=
    fun c hc => isNumeral_of_isDigit (isDigit_of_mem_digitsOf hc)
  unfold integerText
  split
  · exact ⟨List.cons_ne_nil _ _, List.forall_mem_cons.mpr ⟨by decide, hdigits⟩⟩
  · exact ⟨digitsOf_ne_nil _, hdigits⟩

/-- The text of a number has some character, and all are numerals. -/
theorem Number.text_chars (number : Number) :
    number.text.toList ≠ [] ∧ ∀ c ∈ number.text.toList, isNumeral c = true := by
  cases number with
  | integer value =>
    rw [Number.text, String.toList_ofList]
    exact integerText_chars value
  | double value =>
    rw [Number.text, String.toList_ofList]
    obtain ⟨hne, hchars, -⟩ := value.text_chars
    exact ⟨hne, hchars⟩

/-- The text of an integer has no more than one minus sign. -/
theorem count_minus_integerText (value : Int) : (integerText value).count '-' ≤ 1 := by
  have hdigits : (digitsOf value.natAbs).count '-' = 0 :=
    count_minus_eq_zero fun c hc => .inl (isDigit_of_mem_digitsOf hc)
  unfold integerText
  split
  · simp [hdigits]
  · simp [hdigits]

end ApiDrift.Json
