/-!
# Patterns of texts

A pattern is a character of a class, two patterns one behind the other, or a pattern several times
in a row, with or without a bound. A text is checked against a pattern by everything that can remain
of the text behind a part of this form: it has the form when nothing may remain.
-/

namespace ApiDrift.Text

/-- A form that texts may have. -/
inductive Pattern where
  /-- One character of a class. -/
  | one (allowed : Char → Bool)
  /-- A text of the first form and behind it one of the second. -/
  | seq (first second : Pattern)
  /-- No more than so many texts of a form in a row. -/
  | upTo (most : Nat) (pattern : Pattern)
  /-- Any number of texts of a form in a row. -/
  | many (pattern : Pattern)

/-- What can remain of a text behind no more than `most` parts in a row, where `rests` says what can
remain behind one. -/
def restsInRow (rests : List Char → List (List Char)) : Nat → List Char → List (List Char)
  | 0, text => [text]
  | most + 1, text => text :: (rests text).flatMap (restsInRow rests most)

namespace Pattern

/-- One or more texts of a form in a row. -/
def oneOrMore (pattern : Pattern) : Pattern :=
  .seq pattern (.many pattern)

/-- A text of a form or no text. -/
def optional (pattern : Pattern) : Pattern :=
  .upTo 1 pattern

/-- One given character. -/
def char (c : Char) : Pattern :=
  .one (· == c)

/-- What can remain of a text behind a part of the form of a pattern. Parts without characters add
nothing, so a text has no more parts to look for than characters. -/
def rests : Pattern → List Char → List (List Char)
  | .one _, [] => []
  | .one allowed, c :: text => if allowed c then [text] else []
  | .seq first second, text => (first.rests text).flatMap second.rests
  | .upTo most pattern, text => restsInRow pattern.rests most text
  | .many pattern, text => restsInRow pattern.rests text.length text

/-- Whether a text as a whole has the form of a pattern. -/
def accepts (pattern : Pattern) (text : List Char) : Bool :=
  (pattern.rests text).any List.isEmpty

end Pattern

end ApiDrift.Text
