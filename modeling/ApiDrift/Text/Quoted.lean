import ApiDrift.Text.HiddenTable

/-!
# Quoted text in messages

A message shows a text between double quotes. Quotes, backslashes and the common controls are
escaped by a backslash, and every other character that has no visible form of its own is written
as its code point in hexadecimal digits.
-/

namespace ApiDrift.Text

/-- Whether a quoted text shows a character by its code point. -/
def isHidden (c : Char) : Bool :=
  if c.toNat < 0x80 then c.toNat < 0x20 || c.toNat == 0x7F else hiddenRanges.contains c

/-- The lower-case hexadecimal digits of a number, without leading zeros. -/
def hexDigits (n : Nat) : List Char :=
  Nat.toDigits 16 n

/-- A character as a quoted text shows it. -/
def showQuoted (c : Char) : List Char :=
  if c = '"' then ['\\', '"']
  else if c = '\\' then ['\\', '\\']
  else if c = '\n' then ['\\', 'n']
  else if c = '\r' then ['\\', 'r']
  else if c = '\t' then ['\\', 't']
  else if c.toNat = 0 then ['\\', '0']
  else if isHidden c then ['\\', 'u', '\x7b'] ++ hexDigits c.toNat ++ ['\x7d']
  else [c]

/-- A text between double quotes, with what cannot be shown escaped. -/
def quoted (text : String) : String :=
  String.ofList ('"' :: text.toList.flatMap showQuoted ++ ['"'])

/-- A filler is a letter without a form of its own, and a halfwidth sound mark has one. -/
example : ['\u115F', '\u1160', '\u3164', '\uFFA0', '\uFF9E', '\uFF9F'].map isHidden =
    [true, true, true, true, false, false] := by
  decide +kernel

/-- Letters stay, quotes are escaped, and a combining mark is written by its code point. -/
example : quoted "é\"\\\n\x07\u0301" = "\"é\\\"\\\\\\n\\u\x7b7\x7d\\u\x7b301\x7d\"" := by
  decide +kernel

end ApiDrift.Text
