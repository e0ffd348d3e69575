/-!
# Natural numbers of bounded width

Decimal digits stand for a natural number. A reader says up to which number it can go, and digits
that stand for a greater one are not read.
-/

namespace ApiDrift.Number

/-- The number that decimal digits stand for, if there are any and it is at most `greatest`. -/
def natural? (greatest : Nat) (digits : List Char) : Option Nat :=
  if digits.isEmpty || !digits.all Char.isDigit then none
  else
    let value := digits.foldl (fun value c =>
      min (value * 10 + (c.toNat - '0'.toNat)) (greatest + 1)) 0
    if value ≤ greatest then some value else none

/-- Leading zeros do not count, and the bound itself is in range. -/
example : ["007", "255", "256", "", "2 5"].map (fun text => natural? 255 text.toList) =
    [some 7, some 255, none, none, none] := by
  decide +kernel

end ApiDrift.Number
