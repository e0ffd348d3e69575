import ApiDrift.Text.CaseTable

/-!
# Capital and small forms of a text

Both maps are the full default mappings of Unicode: one character may become several, and a
capital sigma becomes a final sigma at the end of a word.
-/

namespace ApiDrift.Text

/-- The image of a character under a table of runs and a table of longer images. -/
def mapCase (runs : List CaseRun) (sequences : List (Nat × List Nat)) (c : Char) : List Char :=
  match runs.findSome? (fun run => run.image? c.toNat) with
  | some code => [Char.ofNat code]
  | none =>
    match sequences.lookup c.toNat with
    | some codes => codes.map Char.ofNat
    | none => [c]

/-- The capital form of a character. -/
def capitalOf (c : Char) : List Char :=
  if c.toNat < 0x80 then [c.toUpper] else mapCase capitalRuns capitalSequences c

/-- The small form of a character that stands alone. -/
def smallOf (c : Char) : List Char :=
  if c.toNat < 0x80 then [c.toLower] else mapCase smallRuns smallSequences c

/-- The capital form of a text. -/
def toCapital (text : List Char) : List Char :=
  text.flatMap capitalOf

/-- Whether the first character that is not ignored for case has case. -/
def meetsCased (text : List Char) : Bool :=
  match text.dropWhile caseIgnorable.contains with
  | c :: _ => casedRanges.contains c
  | [] => false

/-- The small form of `c` between the reversed text `seen` and the text `rest`: a capital sigma
that ends a word becomes a final sigma. -/
def smallBetween (seen : List Char) (c : Char) (rest : List Char) : List Char :=
  if c = 'Σ' then
    if meetsCased seen && !meetsCased rest then ['ς'] else ['σ']
  else
    smallOf c

/-- The small form of `rest` behind the reversed text `seen`, put after the reversed text
`done`. -/
def toSmallAfter (done seen : List Char) : List Char → List Char
  | [] => done.reverse
  | c :: rest => toSmallAfter ((smallBetween seen c rest).reverse ++ done) (c :: seen) rest

/-- The small form of a text. -/
def toSmall (text : List Char) : List Char :=
  toSmallAfter [] [] text

/-- The capital form of a string. -/
def upper (text : String) : String :=
  String.ofList (toCapital text.toList)

/-- The small form of a string. -/
def lower (text : String) : String :=
  String.ofList (toSmall text.toList)

/-- Longer images, single images and characters without case. -/
example : toCapital "straße ıſ ﬁ 1".toList = "STRASSE IS FI 1".toList := by decide +kernel

/-- A dotted capital I keeps its dot as a character of its own. -/
example : toSmall "İX".toList = ['i', '\u0307', 'x'] := by decide +kernel

/-- A sigma ends a word behind a letter and before none, with ignored characters passed over. -/
example : toSmall "ΑΣ Σ ΑΣ.Α ΑΣ.".toList = "ας σ ασ.α ας.".toList := by decide +kernel

end ApiDrift.Text
