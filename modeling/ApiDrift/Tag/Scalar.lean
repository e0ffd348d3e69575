/-!
# Scalar values

What the tags for integers, truth values, single-line texts, identifiers and tokens accept. All of
them look at the raw text of a value, so quotes around it count as part of it.
-/

namespace ApiDrift.Tag

/-- Whether a character is a decimal digit of ASCII. -/
def isDigit (c : Char) : Bool :=
  '0' ≤ c && c ≤ '9'

/-- Whether a character is a letter of ASCII. -/
def isLetter (c : Char) : Bool :=
  ('a' ≤ c && c ≤ 'z') || ('A' ≤ c && c ≤ 'Z')

/-- Whether a character is a letter or digit of ASCII. -/
def isAlphanumeric (c : Char) : Bool :=
  isLetter c || isDigit c

/-- Whether a character is a hexadecimal digit. -/
def isHexDigit (c : Char) : Bool :=
  isDigit c || ('a' ≤ c && c ≤ 'f') || ('A' ≤ c && c ≤ 'F')

/-- One or more decimal digits behind an optional minus sign. -/
def isInteger : List Char → Bool
  | '-' :: digits => !digits.isEmpty && digits.all isDigit
  | digits => !digits.isEmpty && digits.all isDigit

/-- Exactly `true` or `false`. -/
def isBoolean (text : List Char) : Bool :=
  text == "true".toList || text == "false".toList

/-- One line of at least one character. -/
def isLine (text : List Char) : Bool :=
  !text.isEmpty && text.all fun c => c != '\r' && c != '\n'

/-- Hexadecimal digits in groups of eight, four, four, four and twelve, joined by hyphens. -/
def isUuid (text : List Char) : Bool :=
  text.length == 36 && text.all (fun c => isHexDigit c || c == '-') &&
    (text.splitOn '-').map List.length == [8, 4, 4, 4, 12]

/-- The word `Bearer`, a space, and one or more letters or digits. -/
def isAuthToken (text : List Char) : Bool :=
  match text with
  | 'B' :: 'e' :: 'a' :: 'r' :: 'e' :: 'r' :: ' ' :: token =>
    !token.isEmpty && token.all isAlphanumeric
  | _ => false

/-- Signs, digits and what is neither. -/
example : ["8", "-5", "007", "0"].all (fun s => isInteger s.toList) = true ∧
    ["", "-", "+4", "--1", "1.0", " 1", "١"].any (fun s => isInteger s.toList) = false := by
  decide +kernel

/-- The groups of an identifier have their lengths. -/
example : isUuid "123e4567-e89b-12d3-A456-426614174000".toList = true ∧
    isUuid "123e4567-e89b-12d3-A456-42661417400g".toList = false ∧
    isUuid "123e45678e89b-12d3-A456-426614174000".toList = false := by
  decide +kernel

end ApiDrift.Tag
