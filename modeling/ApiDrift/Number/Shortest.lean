import ApiDrift.Number.Double

/-!
# The shortest decimal that reads back

A double is written with the fewest decimal digits whose nearest double it is, and among those
with the digits nearest to it, the even ones of two that are equally near. The search goes over
the grids of multiples of powers of ten from coarse to fine and looks at the two neighbours of the
number on each grid.
-/

namespace ApiDrift.Number

/-- The number `digits * 10 ^ exponent`. -/
structure Decimal where
  /-- All digits, as one number. -/
  digits : Nat
  /-- The power of ten that the last digit counts. -/
  exponent : Int
  deriving DecidableEq

/-- The numerator of a decimal as a fraction. -/
def Decimal.num (d : Decimal) : Nat :=
  d.digits * Nat.pow 10 d.exponent.toNat

/-- The denominator of a decimal as a fraction. -/
def Decimal.den (d : Decimal) : Nat :=
  Nat.pow 10 (-d.exponent).toNat

/-- The rank of the magnitude nearest to a decimal. -/
def Decimal.rank (d : Decimal) : Nat :=
  nearestRank d.num d.den

/-- The neighbours of `units / unitsPerOne` among the multiples of `10 ^ exponent`, the nearer
one first, or the even one of two that are equally near. -/
def gridNeighbours (units : Nat) (exponent : Int) : List Decimal :=
  let num := units * Nat.pow 10 (-exponent).toNat
  let den := unitsPerOne * Nat.pow 10 exponent.toNat
  let below := num / den
  if 2 * (num % den) + below % 2 ≤ den then [⟨below, exponent⟩, ⟨below + 1, exponent⟩]
  else [⟨below + 1, exponent⟩, ⟨below, exponent⟩]

/-- The first decimal that reads back as `rank` on the grids from `10 ^ exponent` down. -/
def searchGrids (rank units : Nat) : (grids : Nat) → (exponent : Int) → Option Decimal
  | 0, _ => none
  | grids + 1, exponent =>
    match (gridNeighbours units exponent).find? (fun d => d.rank == rank) with
    | some d => some d
    | none => searchGrids rank units grids (exponent - 1)

/-- An exponent whose power of ten exceeds a magnitude of `units`. -/
def coarseExponent (units : Nat) : Int :=
  ((units.log2 : Int) - 1074) * 30103 / 100000 + 2

/-- The exact decimal of a magnitude. -/
def Double.expansion (x : Double) : Decimal :=
  ⟨x.units * Nat.pow 5 1074, -1074⟩

/-- The shortest decimal that reads back as the magnitude of `x`. Behind the grids that can
decide it stands the exact expansion, which always reads back. -/
def Double.shortest (x : Double) : Decimal :=
  (searchGrids x.rank x.units 24 (coarseExponent x.units)).getD x.expansion

/-- What the search finds reads back. -/
theorem rank_of_searchGrids {rank units grids : Nat} {exponent : Int} {d : Decimal}
    (h : searchGrids rank units grids exponent = some d) : d.rank = rank := by
  induction grids generalizing exponent with
  | zero => simp [searchGrids] at h
  | succ grids ih =>
    cases hfind : (gridNeighbours units exponent).find? (fun d => d.rank == rank) with
    | some found =>
      rw [searchGrids, hfind] at h
      obtain rfl := Option.some.inj h
      simpa using List.find?_some hfind
    | none =>
      rw [searchGrids, hfind] at h
      exact ih h

/-- A double of the given rank, for tests. -/
example : (⟨false, nearestRank 1 10, by decide +kernel⟩ : Double).shortest = ⟨1, -1⟩ := by
  decide +kernel

/-- Of two equally near decimals the one with an even last digit is taken. -/
example : ([nearestRank 102374204756091475 100, nearestRank 102374204756091425 100].map
    fun r => if h : r < magnitudeCount then (Double.mk false r h).shortest else ⟨0, 0⟩) =
    [⟨10237420475609148, -1⟩, ⟨10237420475609142, -1⟩] := by decide +kernel

/-- The smallest number, the largest one, and a power of ten that is a tie. -/
example : ([nearestRank 1 unitsPerOne, magnitudeCount - 1, nearestRank (10 ^ 23) 1].map
    fun r => if h : r < magnitudeCount then (Double.mk false r h).shortest else ⟨0, 0⟩) =
    [⟨5, -324⟩, ⟨17976931348623157, 292⟩, ⟨1, 23⟩] := by decide +kernel

end ApiDrift.Number
