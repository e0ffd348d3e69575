import ApiDrift.Checked

/-!
# Edit distance

The distance of two texts is the least number of insertions, deletions and substitutions of single
characters that turn one into the other. It is computed row by row: the row of a text against a
text `b` holds its distances from all prefixes of `b`. Two rows are kept. One is complete; the other
is filled for one more character of the text and then changes places with it.
-/

namespace ApiDrift.Suggestion

/-- The two rows that are kept. -/
structure Rows where
  /-- The row that is complete. -/
  complete : Array Nat
  /-- The row that is being filled. Behind what is filled it still holds an earlier row. -/
  filling : Array Nat

namespace Rows

/-- The rows with one more distance for the character `c`: that from the prefix of the other text
that ends in the character `d` at a place. -/
def fill (c : Char) (rows : Rows) (place : Nat) (d : Char) : Except Misstep Rows := do
  let above ← Checked.item rows.complete (place + 1)
  let left ← Checked.item rows.filling place
  let diagonal ← Checked.item rows.complete place
  let filling ← Checked.replace rows.filling (place + 1)
    (min (min (above + 1) (left + 1)) (diagonal + if c = d then 0 else 1))
  return { rows with filling }

/-- The rows with the distances for the character `c` from all longer prefixes of the other text,
of which `rest` stands behind the place. -/
def fillFrom (c : Char) (rows : Rows) (place : Nat) : (rest : List Char) → Except Misstep Rows
  | [] => .ok rows
  | d :: rest => do
    let rows ← rows.fill c place d
    rows.fillFrom c (place + 1) rest

/-- The rows for a text of `count` characters with one more character `c`. -/
def advance (b : List Char) (rows : Rows) (count : Nat) (c : Char) : Except Misstep Rows := do
  let filling ← Checked.replace rows.filling 0 (count + 1)
  let filled ← { rows with filling }.fillFrom c 0 b
  return ⟨filled.filling, filled.complete⟩

/-- The rows for a text of `count` characters with all characters of `rest` behind them. -/
def advanceAll (b : List Char) (rows : Rows) (count : Nat) :
    (rest : List Char) → Except Misstep Rows
  | [] => .ok rows
  | c :: rest => do
    let rows ← rows.advance b count c
    rows.advanceAll b (count + 1) rest

/-- The rows for the empty text: a prefix is as far from it as it is long. -/
def start (b : List Char) : Rows :=
  ⟨Array.range (b.length + 1), Array.replicate (b.length + 1) 0⟩

end Rows

/-- The distance that the rows of two texts come to. -/
def measure (a b : List Char) : Except Misstep Nat := do
  let rows ← (Rows.start b).advanceAll b 0 a
  Checked.item rows.complete b.length

/-- The edit distance of two texts. -/
def distance (a b : List Char) : Nat :=
  match measure a b with
  | .ok distance => distance
  | .error _ => 0

/-- Distances of texts with all three kinds of edits. -/
example : distance "kitten".toList "sitting".toList = 3 ∧ distance [] "abc".toList = 3 ∧
    distance "abc".toList [] = 3 ∧ distance "flaw".toList "lawn".toList = 2 := by
  decide +kernel

end ApiDrift.Suggestion
