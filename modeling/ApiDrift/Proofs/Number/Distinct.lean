import ApiDrift.Proofs.Number.ReadBack
import ApiDrift.Proofs.Number.Text
import ApiDrift.Proofs.Text.Cut
import Mathlib.Algebra.Field.Rat
import Mathlib.Algebra.Order.Field.Rat
import Mathlib.Tactic.FieldSimp
import Mathlib.Tactic.Ring

/-!
# Distinct numbers have distinct texts

The text of a decimal is read as a fraction, in positional and in scientific form, and the fraction
is the value of the decimal. So doubles of one text have shortest decimals of one value, which read
back as one double. An integer is told from a double by its text, which has neither a point nor an
exponent.
-/

namespace ApiDrift.Number

open Tag (isDigit)

/-- The value of a decimal. -/
def Decimal.value (d : Decimal) : ℚ :=
  d.digits * 10 ^ d.exponent

/-- The value of digits with maybe a point between them. -/
def mantissaReading (text : List Char) : ℚ :=
  let whole := text.takeWhile (· != '.')
  let fraction := (text.dropWhile (· != '.')).drop 1
  Nat.ofDigitChars 10 (whole ++ fraction) 0 * 10 ^ (-(fraction.length : ℤ))

/-- The exponent behind its mark and its sign. -/
def exponentReading : List Char → ℤ
  | [] | [_] => 0
  | _ :: sign :: digits =>
    if sign = '-' then -(Nat.ofDigitChars 10 digits 0 : ℤ) else Nat.ofDigitChars 10 digits 0

/-- The value that a text reads as, in positional or in scientific form. -/
def reading (text : List Char) : ℚ :=
  mantissaReading (text.takeWhile (· != 'e')) * 10 ^ exponentReading (text.dropWhile (· != 'e'))

/-- Digits before and behind a point are one number, counted in the place of the last digit. -/
theorem mantissaReading_point {whole : List Char} (h : '.' ∉ whole) (fraction : List Char) :
    mantissaReading (whole ++ '.' :: fraction) =
      Nat.ofDigitChars 10 (whole ++ fraction) 0 * 10 ^ (-(fraction.length : ℤ)) := by
  obtain ⟨hwhole, hfraction⟩ := Text.span_mark h fraction
  rw [mantissaReading, hwhole, hfraction, List.drop_one, List.tail_cons]

/-- Digits without a point are a whole number. -/
theorem mantissaReading_whole {digits : List Char} (h : '.' ∉ digits) :
    mantissaReading digits = Nat.ofDigitChars 10 digits 0 := by
  obtain ⟨hwhole, hfraction⟩ := Text.span_none h
  rw [mantissaReading, hwhole, hfraction, List.drop_nil, List.append_nil, List.length_nil]
  simp

/-- A text without an exponent is its mantissa. -/
theorem reading_positional_form {text : List Char} (h : 'e' ∉ text) :
    reading text = mantissaReading text := by
  obtain ⟨hmantissa, hexponent⟩ := Text.span_none h
  rw [reading, hmantissa, hexponent, exponentReading, zpow_zero, mul_one]

/-- The exponent of a text in scientific form. -/
theorem reading_scientific_form {mantissa : List Char} (h : 'e' ∉ mantissa)
    (exponent : List Char) :
    reading (mantissa ++ 'e' :: exponent) =
      mantissaReading mantissa * 10 ^ exponentReading ('e' :: exponent) := by
  obtain ⟨hmantissa, hexponent⟩ := Text.span_mark h exponent
  rw [reading, hmantissa, hexponent]

/-- The digits of a number read as the number. -/
theorem ofDigitChars_digitsOf (n : Nat) : Nat.ofDigitChars 10 (digitsOf n) 0 = n :=
  Nat.ofDigitChars_ten_toDigits

/-- Distinct natural numbers have distinct digits. -/
theorem digitsOf_injective : Function.Injective digitsOf :=
  Function.LeftInverse.injective (g := fun digits => Nat.ofDigitChars 10 digits 0)
    ofDigitChars_digitsOf

/-- Zeros behind digits count as powers of ten. -/
theorem ofDigitChars_zeros (digits : List Char) (n : Nat) :
    Nat.ofDigitChars 10 (digits ++ List.replicate n '0') 0 =
      10 ^ n * Nat.ofDigitChars 10 digits 0 := by
  rw [Nat.ofDigitChars_append, Nat.ofDigitChars_replicate_zero]

/-- Zeros before digits do not count. -/
theorem zeros_ofDigitChars (n : Nat) (digits : List Char) :
    Nat.ofDigitChars 10 (List.replicate n '0' ++ digits) 0 = Nat.ofDigitChars 10 digits 0 := by
  rw [Nat.ofDigitChars_append, Nat.ofDigitChars_replicate_zero, Nat.mul_zero]

/-- No mark of a number is among digits. -/
theorem notMem_of_isDigit {digits : List Char} (h : ∀ c ∈ digits, isDigit c = true) {mark : Char}
    (hmark : isDigit mark = false) : mark ∉ digits := fun hmem =>
  Bool.false_ne_true (hmark.symm.trans (h _ hmem))

section Forms

variable {digits : List Char} (h : ∀ c ∈ digits, isDigit c = true)

include h

/-- A text in positional form reads as its digits, moved by the place of the point. -/
theorem reading_positional (whole : ℤ) :
    reading (positional digits whole) =
      Nat.ofDigitChars 10 digits 0 * 10 ^ (whole - digits.length) := by
  have hform : 'e' ∉ positional digits whole := by
    intro hmem
    rcases (positional_chars h whole).1 _ hmem with hdigit | hpoint
    · exact absurd hdigit (by decide)
    · exact absurd hpoint (by decide)
  have hpoint : '.' ∉ digits := notMem_of_isDigit h (by decide)
  rw [reading_positional_form hform]
  unfold positional
  split
  · next hwhole =>
    have hzero : '.' ∉ ['0'] := by decide
    have htext : ['0', '.'] ++ List.replicate (-whole).toNat '0' ++ digits =
        ['0'] ++ '.' :: (List.replicate (-whole).toNat '0' ++ digits) := by simp
    have hfront : ['0'] = List.replicate 1 '0' := rfl
    rw [htext, mantissaReading_point hzero, hfront, zeros_ofDigitChars, zeros_ofDigitChars,
      List.length_append, List.length_replicate]
    congr 2
    push_cast
    omega
  · split
    · next hlong =>
      obtain ⟨zeros, hzeros⟩ := Nat.exists_eq_add_of_le hlong
      have hplace : whole - digits.length = zeros := by omega
      have hfront : '.' ∉ digits ++ List.replicate zeros '0' := by simp [hpoint]
      have hback : ['0'] = List.replicate 1 '0' := rfl
      rw [hzeros, Nat.add_sub_cancel_left, mantissaReading_point hfront, hback, ofDigitChars_zeros,
        ofDigitChars_zeros, hplace, List.length_replicate, zpow_natCast, zpow_neg]
      push_cast
      field_simp
    · next hshort =>
      have hfront : '.' ∉ digits.take whole.toNat := fun hmem => hpoint (List.mem_of_mem_take hmem)
      rw [mantissaReading_point hfront, List.take_append_drop, List.length_drop]
      congr 2
      omega

/-- A text in scientific form reads as its digits, moved by the power of ten of the first one. -/
theorem reading_scientific (hne : digits ≠ []) (power : ℤ) :
    reading (scientific digits power) =
      Nat.ofDigitChars 10 digits 0 * 10 ^ (power + 1 - digits.length) := by
  have hpoint : '.' ∉ digits := notMem_of_isDigit h (by decide)
  have hmark : 'e' ∉ digits := notMem_of_isDigit h (by decide)
  have hexponent : exponentReading
      ('e' :: (if power < 0 then '-' else '+') :: digitsOf power.natAbs) = power := by
    rw [exponentReading, ofDigitChars_digitsOf]
    by_cases hpower : power < 0
    · rw [if_pos hpower, if_pos rfl]
      omega
    · rw [if_neg hpower, if_neg (by decide)]
      omega
  unfold scientific
  dsimp only
  split
  · next first second rest =>
    have hten : (10 : ℚ) ≠ 0 := by norm_num
    have hfront : '.' ∉ [first] := fun hmem =>
      hpoint (List.mem_of_mem_take (i := 1) hmem)
    have hmantissa : 'e' ∉ [first] ++ '.' :: second :: rest := by
      simp only [List.mem_cons, not_or, List.singleton_append] at hmark ⊢
      exact ⟨hmark.1, by decide, hmark.2⟩
    have hform := reading_scientific_form hmantissa
      ((if power < 0 then '-' else '+') :: digitsOf power.natAbs)
    rw [mantissaReading_point hfront, hexponent, mul_assoc, ← zpow_add₀ hten] at hform
    refine hform.trans ?_
    congr 2
    simp only [List.length_cons]
    push_cast
    ring
  · next hshort =>
    have hlength : digits.length = 1 := by
      cases digits with
      | nil => exact absurd rfl hne
      | cons first rest =>
        cases rest with
        | nil => rfl
        | cons second others => exact absurd rfl (hshort first second others)
    rw [reading_scientific_form hmark, hexponent, mantissaReading_whole hpoint, hlength]
    congr 2
    omega

end Forms

/-- The text of a decimal reads as its value. -/
theorem reading_text (d : Decimal) : reading d.text = d.value := by
  have hdigits : ∀ c ∈ digitsOf d.digits, isDigit c = true := fun c => isDigit_of_mem_digitsOf
  unfold Decimal.text
  dsimp only
  split
  · rw [reading_positional hdigits, ofDigitChars_digitsOf, add_sub_cancel_left, Decimal.value]
  · rw [reading_scientific hdigits (digitsOf_ne_nil _), ofDigitChars_digitsOf, sub_add_cancel,
      add_sub_cancel_left, Decimal.value]

/-- The value of a decimal is its fraction. -/
theorem Decimal.value_eq_div (d : Decimal) : d.value = (d.num : ℚ) / d.den := by
  have hnum : (d.num : ℚ) = d.digits * 10 ^ d.exponent.toNat := by
    rw [num, Nat.cast_mul, Nat.pow_eq, Nat.cast_pow, Nat.cast_ofNat]
  have hden : (d.den : ℚ) = 10 ^ (-d.exponent).toNat := by
    rw [den, Nat.pow_eq, Nat.cast_pow, Nat.cast_ofNat]
  rw [value, hnum, hden]
  obtain ⟨places, hexponent | hexponent⟩ := d.exponent.eq_nat_or_neg
  · rw [hexponent, Int.toNat_natCast, Int.toNat_neg_natCast, pow_zero, div_one, zpow_natCast]
  · rw [hexponent, neg_neg, Int.toNat_natCast, Int.toNat_neg_natCast, pow_zero, mul_one, zpow_neg,
      zpow_natCast, div_eq_mul_inv]

/-- Decimals of one text read back as one magnitude. -/
theorem Decimal.rank_eq_of_text {d e : Decimal} (h : d.text = e.text) : d.rank = e.rank := by
  have hvalue : d.value = e.value := by rw [← reading_text, ← reading_text, h]
  have hpos : ∀ f : Decimal, (f.den : ℚ) ≠ 0 := fun f =>
    Nat.cast_ne_zero.mpr (Nat.pow_pos (by decide)).ne'
  rw [value_eq_div, value_eq_div, div_eq_div_iff (hpos d) (hpos e)] at hvalue
  exact rank_congr (by exact_mod_cast hvalue)

/-- The text of a magnitude is that of a decimal that reads back. -/
theorem Double.exists_decimal (x : Double) :
    ∃ d : Decimal, (if x.rank = 0 then ['0', '.', '0'] else x.shortest.text) = d.text ∧
      d.rank = x.rank := by
  split
  · next hzero =>
    have hrank : (⟨0, 0⟩ : Decimal).rank = 0 := by decide +kernel
    exact ⟨⟨0, 0⟩, by decide, hrank.trans hzero.symm⟩
  · exact ⟨_, rfl, x.rank_shortest⟩

/-- The text of a decimal does not begin with a minus sign. -/
theorem Decimal.text_ne_minus (d : Decimal) (rest : List Char) : d.text ≠ '-' :: rest := by
  have hdigits : ∀ c ∈ digitsOf d.digits, isDigit c = true := fun c => isDigit_of_mem_digitsOf
  have hminus : ¬(isDigit '-' = true ∨ '-' = '.') := by decide
  intro h
  unfold text at h
  dsimp only at h
  split at h
  · exact hminus ((positional_chars hdigits _).1 '-' (h ▸ List.mem_cons_self))
  · obtain ⟨mantissa, sign, exponent, htext, hmantissa, -⟩ := scientific_eq hdigits
      ((digitsOf d.digits).length + d.exponent - 1)
    rw [htext] at h
    cases mantissa with
    | nil => exact absurd (List.cons.inj h).1 (by decide)
    | cons first others =>
      rw [List.cons_append] at h
      exact hminus (hmantissa '-' ((List.cons.inj h).1 ▸ List.mem_cons_self))

/-- Distinct doubles have distinct texts: no magnitude begins with the sign, so the signs are equal
and what is left are the magnitudes. -/
theorem Double.text_injective : Function.Injective Double.text := by
  intro x y h
  obtain ⟨d, hd, hrankd⟩ := x.exists_decimal
  obtain ⟨e, he, hranke⟩ := y.exists_decimal
  rw [text, text, hd, he] at h
  have hparts : x.negative = y.negative ∧ d.text = e.text := by
    cases hx : x.negative <;> cases hy : y.negative <;> simp only [hx, hy] at h ⊢
    case false.false => exact ⟨trivial, h⟩
    case false.true => exact absurd h (d.text_ne_minus _)
    case true.false => exact absurd h.symm (e.text_ne_minus _)
    case true.true => exact ⟨trivial, (List.cons.inj h).2⟩
  have hrank : x.rank = y.rank := by rw [← hrankd, ← hranke, Decimal.rank_eq_of_text hparts.2]
  obtain ⟨negative, rank, hlt⟩ := x
  obtain ⟨negative', rank', hlt'⟩ := y
  obtain rfl : negative = negative' := hparts.1
  obtain rfl : rank = rank' := hrank
  rfl

end ApiDrift.Number

namespace ApiDrift.Json

open ApiDrift.Number (digitsOf digitsOf_injective notMem_of_isDigit isDigit_of_mem_digitsOf)

/-- Digits do not begin with a minus sign. -/
theorem digitsOf_ne_minus (n : Nat) (rest : List Char) : digitsOf n ≠ '-' :: rest := fun h =>
  notMem_of_isDigit (fun _ => isDigit_of_mem_digitsOf) (by decide) (h ▸ List.mem_cons_self)

/-- Distinct integers have distinct texts. -/
theorem integerText_injective : Function.Injective integerText := by
  intro value other h
  unfold integerText at h
  split at h
  · split at h
    · have := digitsOf_injective (List.cons.inj h).2
      omega
    · exact absurd h.symm (digitsOf_ne_minus _ _)
  · split at h
    · exact absurd h (digitsOf_ne_minus _ _)
    · have := digitsOf_injective h
      omega

/-- An integer has neither a point nor an exponent. -/
theorem notMem_integerText {mark : Char} (hdigit : Tag.isDigit mark = false) (hminus : mark ≠ '-')
    (value : Int) : mark ∉ integerText value := by
  have hdigits : mark ∉ digitsOf value.natAbs :=
    notMem_of_isDigit (fun _ => isDigit_of_mem_digitsOf) hdigit
  unfold integerText
  split
  · exact fun hmem => (List.mem_cons.mp hmem).elim hminus hdigits
  · exact hdigits

/-- No integer has the text of a double. -/
theorem integerText_ne_text (value : Int) (x : Number.Double) : integerText value ≠ x.text := by
  intro h
  obtain ⟨-, -, -, hpoint | hexponent⟩ := x.text_chars
  · exact notMem_integerText (by decide) (by decide) value (h ▸ hpoint)
  · exact notMem_integerText (by decide) (by decide) value (h ▸ hexponent)

/-- Distinct numbers have distinct texts. -/
theorem Number.text_injective : Function.Injective Number.text := by
  intro number other h
  have hchars : number.text.toList = other.text.toList := congrArg String.toList h
  cases number <;> cases other <;> simp only [text, String.toList_ofList] at hchars
  case integer.integer value other => rw [integerText_injective hchars]
  case integer.double value x => exact absurd hchars (integerText_ne_text value x)
  case double.integer x value => exact absurd hchars.symm (integerText_ne_text value x)
  case double.double x y => rw [Number.Double.text_injective hchars]

end ApiDrift.Json
