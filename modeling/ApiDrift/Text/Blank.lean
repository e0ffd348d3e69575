import ApiDrift.Text.CodeRanges

/-!
# Blank characters and trimming

A character is blank when it has the Unicode property `White_Space`; trimming removes blank
characters at both ends of a text and nothing between them.
-/

namespace ApiDrift.Text

/-- The characters with the property `White_Space`. -/
def blankRanges : CodeRanges :=
  [(0x9, 0xD), (0x20, 0x20), (0x85, 0x85), (0xA0, 0xA0), (0x1680, 0x1680), (0x2000, 0x200A),
    (0x2028, 0x2029), (0x202F, 0x202F), (0x205F, 0x205F), (0x3000, 0x3000)]

/-- Whether a character has the property `White_Space`. -/
def isBlank (c : Char) : Bool :=
  if c.toNat < 0x80 then c == ' ' || (0x9 ≤ c.toNat && c.toNat ≤ 0xD)
  else blankRanges.contains c

/-- The text without its leading blank characters. -/
def trimStart (text : List Char) : List Char :=
  text.dropWhile isBlank

/-- The text without its trailing blank characters. -/
def trimEnd (text : List Char) : List Char :=
  if text.getLast?.any isBlank then (text.reverse.dropWhile isBlank).reverse else text

/-- The text without blank characters at either end. -/
def trim (text : List Char) : List Char :=
  trimEnd (trimStart text)

/-- Whether a text holds some character that is not blank. -/
def hasText (text : String) : Bool :=
  !(trim text.toList).isEmpty

/-- Cutting the trailing blank characters is cutting the leading ones of the reversed text. -/
theorem trimEnd_eq (text : List Char) :
    trimEnd text = (text.reverse.dropWhile isBlank).reverse := by
  unfold trimEnd
  split
  · rfl
  · next h =>
    rw [← List.head?_reverse] at h
    generalize hr : text.reverse = r at h
    have ht : text = r.reverse := by rw [← hr, List.reverse_reverse]
    subst ht
    cases r with
    | nil => rfl
    | cons c rest =>
      have hc : isBlank c = false := by simpa using h
      simp [hc]

/-- A space is blank. -/
example : isBlank ' ' = true := by decide

/-- The characters next to the table's edges are not blank. -/
example : [0x8, 0xE, 0x1C, 0x21, 0x84, 0x86, 0x1FFF, 0x200B, 0x202A, 0x3001, 0xFEFF].all
    (fun n => !isBlank (Char.ofNat n)) = true := by decide

end ApiDrift.Text
