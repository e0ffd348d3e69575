import ApiDrift.Text.Quoted

/-!
# Text for a terminal

A terminal obeys certain control characters. In a text that goes to one, they are written by their
codes, so that no value in the text can erase, ring the bell or change colours. All other
characters stay, line feeds and tabs among them.
-/

namespace ApiDrift.Text

/-- The characters of ASCII that a terminal must not get: bell, backspace, form feed, escape and
delete. -/
def terminalControls : List Char :=
  ['\x07', '\x08', '\x0c', '\x1b', '\x7f']

/-- A character as a text for a terminal shows it. The controls beyond ASCII, from U+0080 to
U+009F, are commands of terminals with eight bits. -/
def showForTerminal (c : Char) : List Char :=
  if terminalControls.contains c then
    ['\\', 'x'] ++ (if c.toNat < 16 then ['0'] else []) ++ hexDigits c.toNat
  else if 0x80 ≤ c.toNat && c.toNat ≤ 0x9F then
    ['\\', 'u', '\x7b'] ++ hexDigits c.toNat ++ ['\x7d']
  else [c]

/-- A text as it goes to a terminal. -/
def forTerminal (text : String) : String :=
  String.ofList (text.toList.flatMap showForTerminal)

/-- Controls are shown by their codes; a line feed and a backslash stay. -/
example : forTerminal "a\x07\x1b[1m\x7f\n\\\u0085é" =
    "a\\x07\\x1b[1m\\x7f\n\\\\u\x7b85\x7dé" := by
  decide +kernel

end ApiDrift.Text
