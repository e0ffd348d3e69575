import ApiDrift.Tag.Scalar
import ApiDrift.Text.Pattern

/-!
# Addresses of electronic mail

An address is a local part of atoms joined by dots, an at sign, and a domain of two or more
labels joined by dots. The lengths of the address and of its local part count octets of UTF-8 and
are looked at first; the pattern of an address bounds the labels alone.
-/

namespace ApiDrift.Tag

open Text (Pattern)

/-- How many octets a text takes in UTF-8. -/
def octetCount (text : List Char) : Nat :=
  text.foldr (fun c count => c.utf8Size + count) 0

/-- The longest address. -/
def maxAddressLength : Nat := 255

/-- The longest local part. -/
def maxLocalLength : Nat := 64

/-- The longest label of a domain. -/
def maxLabelLength : Nat := 63

/-- The characters that may stand in an atom of the local part other than letters and digits. -/
def atomMarks : List Char := "!#$%&'*+/=?^_`\x7b|\x7d~-".toList

/-- Whether a character may stand in an atom of the local part. -/
def isAtomChar (c : Char) : Bool :=
  isAlphanumeric c || atomMarks.contains c

/-- Whether a character may stand in a label of the domain, if not at its ends. -/
def isLabelChar (c : Char) : Bool :=
  isAlphanumeric c || c == '-'

/-- Atoms of the local part. -/
def atomPattern : Pattern :=
  .oneOrMore (.one isAtomChar)

/-- Labels of the domain: letters, digits and hyphens, with no hyphen at either end. -/
def labelPattern : Pattern :=
  .seq (.one isAlphanumeric)
    (.optional (.seq (.upTo (maxLabelLength - 2) (.one isLabelChar)) (.one isAlphanumeric)))

/-- Atoms joined by dots. -/
def localPattern : Pattern :=
  .seq atomPattern (.many (.seq (.char '.') atomPattern))

/-- Two or more labels joined by dots. -/
def domainPattern : Pattern :=
  .seq labelPattern (.oneOrMore (.seq (.char '.') labelPattern))

/-- A local part, an at sign and a domain. -/
def addressPattern : Pattern :=
  .seq localPattern (.seq (.char '@') domainPattern)

/-- Whether a text is an address. What stands before its first at sign is the local part. -/
def isEmail (text : List Char) : Bool :=
  octetCount text ≤ maxAddressLength &&
    match text.dropWhile (· != '@') with
    | _ :: _ =>
      let length := octetCount (text.takeWhile (· != '@'))
      1 ≤ length && length ≤ maxLocalLength && addressPattern.accepts text
    | [] => false

/-- Atoms, labels, dots and at signs in their places and out of them. -/
example : ["a@b.co", "x.y+z@a-b.c1.d", "!#@0.0"].all (fun s => isEmail s.toList) = true ∧
    ["a@b", "@b.co", "a@@b.co", ".a@b.co", "a..b@c.de", "a@-b.co", "a@b-.co", "a@b..co",
      "a@b.co.", "a b@c.de", "é@b.co", "\"a\"@b.co", "a@b.co@c"].any
      (fun s => isEmail s.toList) = false := by
  decide +kernel

end ApiDrift.Tag
