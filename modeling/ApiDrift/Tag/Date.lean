import ApiDrift.Checked
import ApiDrift.Tag.Scalar

/-!
# Calendar days

A day is written `dd-mm-yyyy`, bare or between one pair of double quotes, and has to exist in the
proleptic Gregorian calendar in one of the years 1000 to 9999. The check takes a text apart by the
places of its octets in UTF-8, and its characters may take several of them.
-/

namespace ApiDrift.Tag

/-- The octets of a text in UTF-8. -/
def octets (text : List Char) : List UInt8 :=
  text.flatMap String.utf8EncodeChar

/-- Whether a year has a leap day. -/
def isLeapYear (year : Nat) : Bool :=
  (year % 4 == 0 && year % 100 != 0) || year % 400 == 0

/-- How many days the months have in a year without a leap day. -/
def monthLengths : Array Nat :=
  #[31, 28, 31, 30, 31, 30, 31, 31, 30, 31, 30, 31]

/-- Whether there is a day with the given numbers, in a year of four digits. -/
def dayExists (day month year : Nat) : Except Misstep Bool :=
  if !(1 ≤ month && month ≤ 12) || day < 1 || !(1000 ≤ year && year ≤ 9999) then .ok false
  else if month == 2 && isLeapYear year then .ok (day ≤ 29)
  else do
    let length ← Checked.item monthLengths (← Checked.minus month 1)
    return day ≤ length

/-- Whether there are three numbers, and a day with them. -/
def namesDay (day month year : Option Nat) : Except Misstep Bool :=
  match day, month, year with
  | some day, some month, some year => dayExists day month year
  | _, _, _ => .ok false

/-- The value of the octets of decimal digits behind digits with a value, if all of them are
digits. -/
def digitsFrom (value : Nat) : List UInt8 → Except Misstep (Option Nat)
  | [] => .ok (some value)
  | octet :: rest =>
    if 0x30 ≤ octet ∧ octet ≤ 0x39 then do
      let tens ← Checked.word (value * 10)
      let digit ← Checked.minus octet.toNat 0x30
      digitsFrom (← Checked.word (tens + digit)) rest
    else
      .ok none

/-- Whether ten octets are those of a text of the form `dd-mm-yyyy` for a day that exists. -/
def checkOctets (octets : Array UInt8) : Except Misstep Bool := do
  let first ← Checked.item octets 2
  if first ≠ 0x2D then return false
  else
    let second ← Checked.item octets 5
    if second ≠ 0x2D then return false
    else
      let day ← digitsFrom 0 (← Checked.between octets 0 2)
      let month ← digitsFrom 0 (← Checked.between octets 3 5)
      let year ← digitsFrom 0 (← Checked.between octets 6 10)
      namesDay day month year

/-- The verdict on a text, which is accepted bare or between quotes. -/
def checkDate (text : List Char) : Except Misstep Bool :=
  if text.head? = some '"' ∧ text.getLast? = some '"' then
    if (octets text).length ≠ 12 then .ok false
    else do
      let inner ← Checked.slice text 1 11
      checkOctets (octets inner).toArray
  else if (octets text).length ≠ 10 then .ok false
  else checkOctets (octets text).toArray

/-- Whether a text, bare or between quotes, names a day that exists. -/
def isDate (text : List Char) : Bool :=
  match checkDate text with
  | .ok verdict => verdict
  | .error _ => false

/-- Leap days, quotes and the ends of the range of years. -/
example : ["29-02-2000", "\"28-02-1900\"", "01-01-1000", "31-12-9999"].all
      (fun s => isDate s.toList) = true ∧
    ["29-02-1900", "31-04-2020", "00-01-2020", "01-13-2020", "01-01-0999", "1-1-2020",
      "\"01-01-2020", "01-01-2020\"", "\"\"01-01-2020\"\"", "\"", "1é-01-202", "\"01-01-20é\"",
      ""].any
      (fun s => isDate s.toList) = false := by
  decide +kernel

end ApiDrift.Tag
