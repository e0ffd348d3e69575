import ApiDrift.Number.Shortest

/-!
# Decimal text of doubles

A double is written in positional form while its leading digit counts a power of ten from
`10 ^ -5` to `10 ^ 15`, with a point and at least one digit behind it, and in scientific form
with a signed exponent beyond. Reading a decimal rounds its digits to a double first and then
multiplies or divides by the power of ten, rounding again.
-/

namespace ApiDrift.Number

/-- The decimal digits of a natural number. -/
def digitsOf (n : Nat) : List Char :=
  Nat.toDigits 10 n

/-- Digits with the point behind the first `whole` of them, filled up by zeros on either side. -/
def positional (digits : List Char) (whole : Int) : List Char :=
  if whole ≤ 0 then
    ['0', '.'] ++ List.replicate (-whole).toNat '0' ++ digits
  else if digits.length ≤ whole.toNat then
    digits ++ List.replicate (whole.toNat - digits.length) '0' ++ ['.', '0']
  else
    digits.take whole.toNat ++ '.' :: digits.drop whole.toNat

/-- Digits with the point behind the first one, if others follow, and the power of ten that the
first digit counts. -/
def scientific (digits : List Char) (power : Int) : List Char :=
  let mantissa := match digits with
    | first :: second :: rest => first :: '.' :: second :: rest
    | short => short
  mantissa ++ 'e' :: (if power < 0 then '-' else '+') :: digitsOf power.natAbs

/-- The text of a decimal. -/
def Decimal.text (d : Decimal) : List Char :=
  let digits := digitsOf d.digits
  let whole := digits.length + d.exponent
  if -5 < whole ∧ whole ≤ 16 then positional digits whole else scientific digits (whole - 1)

/-- The text of a double. -/
def Double.text (x : Double) : List Char :=
  (if x.negative then ['-'] else []) ++
    if x.rank = 0 then ['0', '.', '0'] else x.shortest.text

/-- The largest power of ten that is a finite double. -/
def largestPower : Nat := 308

/-- The double nearest to a power of ten up to the largest finite one. -/
def powerOfTen? (n : Nat) : Option Double :=
  Double.nearest? false (Nat.pow 10 n) 1

/-- The quotient of `x` and `10 ^ n`, divided by the largest finite power of ten as long as the
rest exceeds it and the quotient is not zero yet. -/
def divPower? (x : Double) (n : Nat) : Option Double :=
  if n ≤ largestPower then (powerOfTen? n).bind x.div?
  else if x.rank = 0 then some x
  else (powerOfTen? largestPower).bind x.div? |>.bind (divPower? · (n - largestPower))
termination_by n
decreasing_by simp only [largestPower] at *; omega

/-- The product of `x` and `10 ^ n`, if it is finite. -/
def mulPower? (x : Double) (n : Nat) : Option Double :=
  if n ≤ largestPower then (powerOfTen? n).bind x.mul?
  else if x.rank = 0 then some x
  else none

/-- The double that a decimal with a sign reads as, if it is finite. -/
def Decimal.toDouble? (d : Decimal) (negative : Bool) : Option Double :=
  (Double.nearest? negative d.digits 1).bind fun x =>
    if 0 ≤ d.exponent then mulPower? x d.exponent.toNat
    else divPower? x (-d.exponent).toNat

/-- Texts on both sides of the edges of the positional form. -/
example : ([⟨1, -5⟩, ⟨1, -6⟩, ⟨1, 0⟩, ⟨1, 15⟩, ⟨1, 16⟩, ⟨15, 15⟩, ⟨25, -1⟩, ⟨5, -324⟩].map
    fun d => String.ofList (Decimal.text d)) =
    ["0.00001", "1e-6", "1.0", "1000000000000000.0", "1e+16", "1.5e+16", "2.5", "5e-324"] := by
  decide +kernel

/-- Too small a decimal reads as zero, and too large a one does not read. -/
example : (Decimal.toDouble? ⟨1, -400⟩ true = some (.zero true)) ∧
    (Decimal.toDouble? ⟨1, 309⟩ false = none) ∧
    (Decimal.toDouble? ⟨0, 10000⟩ false = some (.zero false)) := by
  refine ⟨?_, ?_, ?_⟩ <;> decide +kernel

end ApiDrift.Number
