/-!
# Finite binary64 numbers

A number is its sign and the rank of its magnitude among all finite magnitudes in increasing
order, so equality is decided and every magnitude has one form. Rounding is exact integer
arithmetic: to the nearest magnitude, with ties to the even rank.
-/

namespace ApiDrift.Number

/-- The quotient of two natural numbers rounded to the nearest one, ties to the even one. -/
def roundQuotient (num den : Nat) : Nat :=
  let quotient := num / den
  let remainder := num % den
  if 2 * remainder < den then quotient
  else if den < 2 * remainder then quotient + 1
  else quotient + quotient % 2

/-- How many magnitudes share one distance to their neighbours, above the smallest ones. -/
def binade : Nat := Nat.pow 2 52

/-- How many finite magnitudes there are. -/
def magnitudeCount : Nat := 2047 * binade

/-- The smallest positive magnitude is one over this number. -/
def unitsPerOne : Nat := Nat.pow 2 1074

/-- The rank of the magnitude nearest to `num / den`, which is `magnitudeCount` or more when it
is too large. -/
def nearestRank (num den : Nat) : Nat :=
  let units := num * unitsPerOne
  let shift := (units / den).log2 - 52
  shift * binade + roundQuotient units (den * Nat.pow 2 shift)

/-- A finite binary64 number. -/
structure Double where
  /-- The sign, which zero has too. -/
  negative : Bool
  /-- The place of the magnitude among all finite magnitudes in increasing order. -/
  rank : Nat
  /-- The magnitude is finite. -/
  rank_lt : rank < magnitudeCount
  deriving DecidableEq

/-- How often the distance between neighbours has doubled below this number's rank. -/
def Double.shift (x : Double) : Nat :=
  x.rank / binade - 1

/-- The magnitude as a multiple of the smallest positive one. -/
def Double.units (x : Double) : Nat :=
  (x.rank - x.shift * binade) * Nat.pow 2 x.shift

/-- The number nearest to `num / den` with the given sign, if it is finite. -/
def Double.nearest? (negative : Bool) (num den : Nat) : Option Double :=
  if h : nearestRank num den < magnitudeCount then some ⟨negative, nearestRank num den, h⟩
  else none

/-- The zero of the given sign. -/
def Double.zero (negative : Bool) : Double :=
  ⟨negative, 0, by decide⟩

/-- The product rounded to nearest, if it is finite. -/
def Double.mul? (x y : Double) : Option Double :=
  Double.nearest? (x.negative != y.negative) (x.units * y.units) (unitsPerOne * unitsPerOne)

/-- The quotient rounded to nearest, if it is finite. -/
def Double.div? (x y : Double) : Option Double :=
  Double.nearest? (x.negative != y.negative) x.units y.units

/-- One, a half and the smallest positive number lie at their ranks. -/
example : (nearestRank 1 1, nearestRank 1 2, nearestRank 1 unitsPerOne) =
    (1023 * binade, 1022 * binade, 1) := by decide +kernel

/-- A tie goes to the even rank: an odd number of 54 bits, and half the smallest number. -/
example : nearestRank (2 ^ 53 + 1) 1 = nearestRank (2 ^ 53) 1 ∧
    nearestRank (2 ^ 53 + 3) 1 = nearestRank (2 ^ 53 + 4) 1 ∧
    nearestRank 1 (2 * unitsPerOne) = 0 := by decide +kernel

/-- The largest finite number is the last one below the bound, and the midpoint behind it is
no longer finite. -/
example : nearestRank ((2 ^ 53 - 1) * 2 ^ 971) 1 + 1 = magnitudeCount ∧
    nearestRank ((2 ^ 54 - 1) * 2 ^ 970) 1 = magnitudeCount := by decide +kernel

end ApiDrift.Number
