import ApiDrift.Number.Natural

/-!
# Positions at the end of a message

A message says what is wrong, and not where. A text that ends in a position, that is in the words
`at line` and `column` with their numbers, therefore counts without it as a message. The text is
read from its end, so of several positions only the last one goes.
-/

namespace ApiDrift.Text

/-- What stands before the given words at the end of a text, both texts read backwards. -/
def beforeWords? (words : String) (backwards : List Char) : Option (List Char) :=
  words.toList.reverse.isPrefixOf? backwards

/-- What stands before the number of sixty-four bits at the end of a text, both texts read
backwards. -/
def beforeNumber? (backwards : List Char) : Option (List Char) :=
  let digits := (backwards.takeWhile Char.isDigit).reverse
  (Number.natural? (UInt64.size - 1) digits).map fun _ => backwards.dropWhile Char.isDigit

/-- What stands before the position at the end of a text, both texts read backwards. -/
def beforePosition? (backwards : List Char) : Option (List Char) := do
  let line ← beforeWords? " column " (← beforeNumber? backwards)
  beforeWords? " at line " (← beforeNumber? line)

/-- A text without the position at its end, if it has one. -/
def withoutPosition (text : String) : String :=
  (beforePosition? text.toList.reverse).elim text fun backwards => String.ofList backwards.reverse

/-- Only a position at the very end goes, and only one. -/
example : ["a at line 3 column 4", "a at line 1 column 2 at line 0 column 00",
    "a at line 3 column 4.", "a at line 3 column ", "a at line 3 column 18446744073709551616",
    "at line 3 column 4"].map withoutPosition =
    ["a", "a at line 1 column 2", "a at line 3 column 4.", "a at line 3 column ",
      "a at line 3 column 18446744073709551616", "at line 3 column 4"] := by
  decide +kernel

end ApiDrift.Text
