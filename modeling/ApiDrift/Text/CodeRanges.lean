/-!
# Sets of characters given by ranges of code points

Character classes of the text rules are tables of closed ranges, written in increasing order.
-/

namespace ApiDrift.Text

/-- Closed ranges of code points, each with its first and its last member. -/
abbrev CodeRanges := List (Nat × Nat)

/-- Whether some range holds the code point of `c`. -/
def CodeRanges.contains (ranges : CodeRanges) (c : Char) : Bool :=
  ranges.any fun range => range.1 ≤ c.toNat && c.toNat ≤ range.2

end ApiDrift.Text
