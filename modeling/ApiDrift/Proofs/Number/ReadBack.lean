import ApiDrift.Number.Shortest
import Mathlib.Algebra.Group.Nat.Defs

/-!
# Decimals that read back

The magnitude nearest to a fraction depends on the value of the fraction alone, and a magnitude is
the nearest one to itself. So the shortest decimal of a double reads back as the double, whether it
was found on a grid or is the exact expansion, and any decimal of the same value does too.
-/

namespace ApiDrift.Number

/-- A quotient is rounded in the same way when both numbers are multiplied by the same one. -/
theorem roundQuotient_mul_right {k : Nat} (hk : 0 < k) (num den : Nat) :
    roundQuotient (num * k) (den * k) = roundQuotient num den := by
  simp only [roundQuotient, Nat.mul_div_mul_right _ _ hk, Nat.mul_mod_mul_right]
  rw [← Nat.mul_assoc]
  simp only [Nat.mul_lt_mul_right hk]

/-- A quotient without remainder is not rounded. -/
theorem roundQuotient_mul_self {k : Nat} (hk : 0 < k) (n : Nat) : roundQuotient (n * k) k = n := by
  simp [roundQuotient, Nat.mul_div_cancel _ hk, hk]

/-- Fractions of the same value have the same nearest magnitude. -/
theorem nearestRank_congr {num den num' den' : Nat} (hden : 0 < den) (hden' : 0 < den')
    (h : num * den' = num' * den) : nearestRank num den = nearestRank num' den' := by
  have hunits : num * unitsPerOne * den' = num' * unitsPerOne * den := by
    rw [Nat.mul_right_comm, h, Nat.mul_right_comm]
  have hquotient : num * unitsPerOne / den = num' * unitsPerOne / den' := by
    rw [← Nat.mul_div_mul_right _ _ hden', hunits, Nat.mul_comm den, Nat.mul_div_mul_right _ _ hden]
  have hrounded : ∀ shift, roundQuotient (num * unitsPerOne) (den * Nat.pow 2 shift) =
      roundQuotient (num' * unitsPerOne) (den' * Nat.pow 2 shift) := by
    intro shift
    have hden_comm : den * Nat.pow 2 shift * den' = den' * Nat.pow 2 shift * den := by
      rw [Nat.mul_right_comm, Nat.mul_comm den, Nat.mul_right_comm]
    rw [← roundQuotient_mul_right hden', hunits, hden_comm, roundQuotient_mul_right hden]
  simp only [nearestRank, hquotient, hrounded]

/-- The units of one are a positive number. -/
theorem unitsPerOne_pos : 0 < unitsPerOne := by
  unfold unitsPerOne
  generalize 1074 = places
  exact Nat.two_pow_pos places

/-- The units of one are a power of two. -/
theorem unitsPerOne_eq : unitsPerOne = Nat.pow 2 1074 := by
  unfold unitsPerOne
  exact Eq.refl _

/-- A magnitude is a mantissa shifted to its place. The mantissa has 53 bits if it is shifted, and
at most as many if it is not. -/
theorem Double.exists_mantissa (x : Double) :
    ∃ mantissa, x.rank = x.shift * binade + mantissa ∧ x.units = mantissa * 2 ^ x.shift ∧
      mantissa < 2 ^ 53 ∧ (x.shift = 0 ∨ 2 ^ 52 ≤ mantissa) := by
  have hbinade : binade = 2 ^ 52 := rfl
  have hdiv := Nat.div_add_mod x.rank binade
  have hmod : x.rank % binade < binade := Nat.mod_lt _ (by decide)
  refine ⟨x.rank - x.shift * binade, ?_⟩
  have hunits : x.units = (x.rank - x.shift * binade) * 2 ^ x.shift := rfl
  rw [hunits, shift]
  cases hquotient : x.rank / binade with
  | zero =>
    rw [hquotient] at hdiv
    refine ⟨?_, rfl, ?_, .inl rfl⟩ <;> omega
  | succ quotient =>
    rw [hquotient, Nat.mul_comm, Nat.succ_mul] at hdiv
    rw [Nat.add_sub_cancel]
    refine ⟨?_, rfl, ?_, .inr ?_⟩ <;> omega

/-- The place of a mantissa is found by its length. -/
theorem Double.log2_units (x : Double) : x.units.log2 - 52 = x.shift := by
  obtain ⟨mantissa, -, hunits, hlt, hshift⟩ := x.exists_mantissa
  rw [hunits]
  rcases hshift with hshift | hle
  · rw [hshift, Nat.pow_zero, Nat.mul_one]
    rcases Nat.eq_zero_or_pos mantissa with rfl | hpos
    · rw [Nat.log2_zero]
    · have := (Nat.log2_lt (Nat.pos_iff_ne_zero.mp hpos)).mpr hlt
      omega
  · have hlog : (mantissa * 2 ^ x.shift).log2 = 52 + x.shift := by
      have hpow : 0 < 2 ^ x.shift := Nat.two_pow_pos _
      have hpos : mantissa * 2 ^ x.shift ≠ 0 :=
        Nat.mul_ne_zero (by omega) (Nat.pos_iff_ne_zero.mp hpow)
      rw [Nat.log2_eq_iff hpos, Nat.add_right_comm, Nat.pow_add, Nat.pow_add _ (52 + 1)]
      exact ⟨Nat.mul_le_mul_right _ hle, Nat.mul_lt_mul_of_pos_right hlt hpow⟩
    omega

/-- A magnitude is the nearest one to itself. -/
theorem nearestRank_units (x : Double) : nearestRank x.units unitsPerOne = x.rank := by
  obtain ⟨mantissa, hrank, hunits, -, -⟩ := x.exists_mantissa
  have hone := unitsPerOne_pos
  have hscale : 0 < unitsPerOne * 2 ^ x.shift := Nat.mul_pos hone (Nat.two_pow_pos _)
  have hexact : roundQuotient (x.units * unitsPerOne) (unitsPerOne * 2 ^ x.shift) = mantissa := by
    rw [hunits, Nat.mul_assoc, Nat.mul_comm (2 ^ x.shift), roundQuotient_mul_self hscale]
  have hshift : x.units * unitsPerOne / unitsPerOne = x.units := Nat.mul_div_cancel _ hone
  simp only [nearestRank, hshift, x.log2_units]
  exact (congrArg (x.shift * binade + ·) hexact).trans hrank.symm

/-- Decimals of the same value read back as the same magnitude. -/
theorem Decimal.rank_congr {d e : Decimal} (h : d.num * e.den = e.num * d.den) :
    d.rank = e.rank :=
  nearestRank_congr (Nat.pow_pos (by decide)) (Nat.pow_pos (by decide)) h

/-- The exact expansion of a magnitude reads back. -/
theorem Double.rank_expansion (x : Double) : x.expansion.rank = x.rank := by
  have hplaces : (-x.expansion.exponent).toNat = 1074 := rfl
  have hten : Nat.pow 5 1074 * unitsPerOne = x.expansion.den := by
    rw [unitsPerOne_eq, Decimal.den, hplaces]
    generalize 1074 = places
    exact (Nat.mul_pow 5 2 places).symm
  have hnum : x.expansion.num = x.units * Nat.pow 5 1074 := Nat.mul_one _
  rw [← nearestRank_units x, Decimal.rank, hnum]
  refine nearestRank_congr (Nat.pow_pos (by decide)) unitsPerOne_pos ?_
  rw [← hten, Nat.mul_assoc]

/-- The shortest decimal of a double reads back as its magnitude. -/
theorem Double.rank_shortest (x : Double) : x.shortest.rank = x.rank := by
  rw [shortest]
  cases h : searchGrids x.rank x.units 24 (coarseExponent x.units) with
  | some d => exact rank_of_searchGrids h
  | none => exact x.rank_expansion

end ApiDrift.Number
