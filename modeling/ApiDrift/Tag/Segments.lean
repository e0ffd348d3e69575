import ApiDrift.Text.Blank

/-!
# Segments of a literal

A text is cut at the delimiters that stand outside quotes and outside all brackets. The scan
counts both kinds of brackets in one depth, which closing brackets may take below zero, and a
backslash between quotes takes the next character with it. A text that ends between quotes or at
another depth than zero has no segments.
-/

namespace ApiDrift.Tag

/-- Where a scan stands with respect to quotes. -/
inductive Quoting where
  /-- Outside quotes. -/
  | outside
  /-- Between quotes. -/
  | inside
  /-- Between quotes, behind a backslash. -/
  | escaped
  deriving DecidableEq

/-- The state of a scan. -/
structure Scan where
  /-- Opening brackets less closing ones outside quotes so far. -/
  depth : Int
  /-- Where the scan stands with respect to quotes. -/
  quoting : Quoting
  deriving DecidableEq

/-- The state before a text. -/
def Scan.start : Scan := ⟨0, .outside⟩

/-- Whether a scan may end here. -/
def Scan.isBalanced (s : Scan) : Bool :=
  s.depth == 0 && s.quoting == .outside

/-- The state behind one more character. -/
def Scan.step (s : Scan) (c : Char) : Scan :=
  match s.quoting with
  | .escaped => ⟨s.depth, .inside⟩
  | .inside =>
    if c = '\\' then ⟨s.depth, .escaped⟩
    else if c = '"' then ⟨s.depth, .outside⟩
    else s
  | .outside =>
    if c = '"' then ⟨s.depth, .inside⟩
    else if c = '[' ∨ c = '{' then ⟨s.depth + 1, .outside⟩
    else if c = ']' ∨ c = '}' then ⟨s.depth - 1, .outside⟩
    else s

/-- Whether a text is cut at `c`. -/
def Scan.cutsAt (s : Scan) (delimiter c : Char) : Bool :=
  c == delimiter && s.isBalanced

/-- The pieces of `text` in state `s`, with the piece in progress and the ones before it in
reversed order. -/
def cutFrom (delimiter : Char) (s : Scan) (current : List Char) (done : List (List Char)) :
    (text : List Char) → Option (List (List Char))
  | [] => if s.isBalanced then some (current.reverse :: done).reverse else none
  | c :: rest =>
    if s.cutsAt delimiter c then cutFrom delimiter s [] (current.reverse :: done) rest
    else cutFrom delimiter (s.step c) (c :: current) done rest

/-- The pieces between the delimiters outside quotes and brackets. -/
def pieces? (delimiter : Char) (text : List Char) : Option (List (List Char)) :=
  cutFrom delimiter .start [] [] text

/-- The pieces without the blank characters around them. -/
def segments? (delimiter : Char) (text : List Char) : Option (List (List Char)) :=
  (pieces? delimiter text).map fun pieces => pieces.map Text.trim

/-- The pieces of a text stand in it one behind the other. -/
theorem sublist_cutFrom {delimiter : Char} {s : Scan} {current : List Char}
    {done : List (List Char)} {text : List Char} {pieces : List (List Char)}
    (h : cutFrom delimiter s current done text = some pieces) :
    pieces.flatten.Sublist (done.reverse.flatten ++ (current.reverse ++ text)) := by
  induction text generalizing s current done with
  | nil =>
    rw [cutFrom] at h
    split at h
    · obtain rfl := Option.some.inj h
      simp
    · cases h
  | cons c rest ih =>
    rw [cutFrom] at h
    split at h
    · refine (ih h).trans ?_
      rw [List.reverse_cons, List.flatten_append, List.flatten_singleton, List.append_assoc]
      exact .append_left (.append_left (List.sublist_cons_self c rest) _) _
    · simpa using ih h

/-- What trimming leaves of a text stands in it. -/
theorem sublist_trim (text : List Char) : (Text.trim text).Sublist text := by
  have hend : (Text.trimEnd (Text.trimStart text)).Sublist (Text.trimStart text) := by
    rw [Text.trimEnd_eq, ← List.reverse_sublist, List.reverse_reverse]
    exact List.dropWhile_sublist _
  exact hend.trans (List.dropWhile_sublist _)

/-- What trimming leaves of texts stands in them. -/
theorem sublist_map_trim (texts : List (List Char)) :
    (texts.map Text.trim).flatten.Sublist texts.flatten := by
  induction texts with
  | nil => exact .slnil
  | cons text rest ih => exact (sublist_trim text).append ih

/-- The segments of a text stand in it one behind the other. -/
theorem sublist_segments {delimiter : Char} {text : List Char} {segments : List (List Char)}
    (h : segments? delimiter text = some segments) : segments.flatten.Sublist text := by
  obtain ⟨pieces, hpieces, rfl⟩ := Option.map_eq_some_iff.mp h
  exact (sublist_map_trim pieces).trans (sublist_cutFrom hpieces)

/-- Delimiters between quotes and brackets do not cut, and every cut leaves a segment. -/
example : (segments? ',' "1, \"a,b\\\",\" ,[2,3],,".toList).map (·.map String.ofList) =
    some ["1", "\"a,b\\\",\"", "[2,3]", "", ""] := by decide +kernel

/-- Closing brackets may come first as long as the depth ends at zero. -/
example : (segments? ',' "],[".toList).map (·.map String.ofList) = some ["],["] ∧
    segments? ',' "[".toList = none ∧ segments? ',' "\"".toList = none := by decide +kernel

end ApiDrift.Tag
