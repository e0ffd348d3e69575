import ApiDrift.Json.Value

/-!
# Scanning JSON octets

Texts and numbers are scanned from the octets of a JSON text. A scan fails where the octets break
the form of the token. A token of the right form may still be unreadable: a text with a lone
surrogate or with octets that are no UTF-8, and a number that exceeds all doubles. Such a token
has no value but an end.
-/

namespace ApiDrift.Json

/-- The octets of a text. -/
abbrev Octets := List UInt8

/-- A value scanned from octets, and the octets behind it. -/
structure Scanned (α : Type) (bound : Nat) where
  /-- What was scanned. -/
  value : α
  /-- What follows it. -/
  rest : Octets
  /-- A scan adds no octets. -/
  length_le : rest.length ≤ bound

/-- Whether an octet is blank between the tokens of a JSON text. -/
def isSpace (octet : UInt8) : Bool :=
  octet == 0x20 || octet == 0x0A || octet == 0x09 || octet == 0x0D

/-- The octets without leading blanks. -/
def skipSpace (input : Octets) : Octets :=
  input.dropWhile isSpace

/-- Skipping blanks adds no octets. -/
theorem length_skipSpace_le (input : Octets) : (skipSpace input).length ≤ input.length :=
  (List.dropWhile_sublist _).length_le

/-! ## Texts -/

/-- The payload of the first octet of a longer UTF-8 sequence, how many octets follow it, and the
least and the greatest octet that may come second. -/
def leadOctet? (octet : Nat) : Option (Nat × Nat × Nat × Nat) :=
  if 0xC2 ≤ octet ∧ octet ≤ 0xDF then some (octet - 0xC0, 1, 0x80, 0xBF)
  else if octet = 0xE0 then some (0x0, 2, 0xA0, 0xBF)
  else if octet = 0xED then some (0xD, 2, 0x80, 0x9F)
  else if 0xE1 ≤ octet ∧ octet ≤ 0xEF then some (octet - 0xE0, 2, 0x80, 0xBF)
  else if octet = 0xF0 then some (0x0, 3, 0x90, 0xBF)
  else if 0xF1 ≤ octet ∧ octet ≤ 0xF3 then some (octet - 0xF0, 3, 0x80, 0xBF)
  else if octet = 0xF4 then some (0x4, 3, 0x80, 0x8F)
  else none

/-- The code point of a payload and the given number of octets that continue it. -/
def continueCode? : (count low high payload : Nat) → Octets → Option Nat
  | 0, _, _, payload, _ => some payload
  | _ + 1, _, _, _, [] => none
  | count + 1, low, high, payload, octet :: rest =>
    if low ≤ octet.toNat ∧ octet.toNat ≤ high then
      continueCode? count 0x80 0xBF (payload * 64 + (octet.toNat - 0x80)) rest
    else
      none

/-- The character of a longer UTF-8 sequence and how many octets it takes behind the first. -/
def longSequence? (octet : UInt8) (rest : Octets) : Option (Char × Nat) :=
  (leadOctet? octet.toNat).bind fun (payload, count, low, high) =>
    (continueCode? count low high payload rest).map fun code => (Char.ofNat code, count)

/-- The value of a hexadecimal digit. -/
def hexValue? (octet : UInt8) : Option Nat :=
  let n := octet.toNat
  if 0x30 ≤ n ∧ n ≤ 0x39 then some (n - 0x30)
  else if 0x41 ≤ n ∧ n ≤ 0x46 then some (n - 0x41 + 10)
  else if 0x61 ≤ n ∧ n ≤ 0x66 then some (n - 0x61 + 10)
  else none

/-- The value of four hexadecimal digits at the head of the octets. -/
def hexQuad? : Octets → Option Nat
  | a :: b :: c :: d :: _ => do
    let a ← hexValue? a
    let b ← hexValue? b
    let c ← hexValue? c
    let d ← hexValue? d
    return ((a * 16 + b) * 16 + c) * 16 + d
  | _ => none

/-- The character of an escape by one letter. -/
def letterEscape? (octet : UInt8) : Option Char :=
  if octet = 0x22 then some '"'
  else if octet = 0x5C then some '\\'
  else if octet = 0x2F then some '/'
  else if octet = 0x62 then some '\x08'
  else if octet = 0x66 then some '\x0c'
  else if octet = 0x6E then some '\n'
  else if octet = 0x72 then some '\r'
  else if octet = 0x74 then some '\t'
  else none

/-- The character of an escape by code point and how many octets it takes behind the letter. A
high surrogate is read together with the low one that follows it; any other surrogate is
unreadable. -/
def codeEscape? (input : Octets) : Option (Option Char × Nat) :=
  (hexQuad? input).map fun unit =>
    if 0xD800 ≤ unit ∧ unit ≤ 0xDBFF then
      match input.drop 4 with
      | 0x5C :: 0x75 :: more =>
        match hexQuad? more with
        | some low =>
          if 0xDC00 ≤ low ∧ low ≤ 0xDFFF then
            (some (Char.ofNat (0x10000 + (unit - 0xD800) * 0x400 + (low - 0xDC00))), 10)
          else (none, 4)
        | none => (none, 4)
      | _ => (none, 4)
    else if 0xDC00 ≤ unit ∧ unit ≤ 0xDFFF then (none, 4)
    else (some (Char.ofNat unit), 4)

/-- The character that starts with `octet`, if it is readable, and how many octets of `rest` it
takes. No character starts with a control, and an escape has to have the form of one. -/
def nextChar? (octet : UInt8) (rest : Octets) : Option (Option Char × Nat) :=
  if octet < 0x20 then none
  else if octet = 0x5C then
    match rest with
    | [] => none
    | letter :: more =>
      if letter = 0x75 then (codeEscape? more).map fun (c, count) => (c, count + 1)
      else (letterEscape? letter).map fun c => (some c, 1)
  else if octet < 0x80 then some (some (Char.ofNat octet.toNat), 0)
  else
    match longSequence? octet rest with
    | some (c, count) => some (some c, count)
    | none => some (none, 0)

/-- A reversed text with one more character, readable if both are. -/
def pushChar : Option (List Char) → Option Char → Option (List Char)
  | some text, some c => some (c :: text)
  | _, _ => none

/-- The text up to the next quote, put behind the reversed text `text`. -/
def scanText (bound : Nat) (text : Option (List Char)) (input : Octets)
    (h : input.length ≤ bound) : Option (Scanned (Option String) bound) :=
  match input with
  | [] => none
  | octet :: rest =>
    if octet = 0x22 then
      some ⟨text.map fun cs => String.ofList cs.reverse, rest, Nat.le_of_succ_le h⟩
    else
      match nextChar? octet rest with
      | none => none
      | some (c, count) =>
        scanText bound (pushChar text c) (rest.drop count) (by
          simp only [List.length_cons, List.length_drop] at *
          omega)
termination_by input.length
decreasing_by simp only [List.length_cons, List.length_drop]; omega

/-! ## Numbers -/

/-- Whether an octet is a decimal digit. -/
def isDigit (octet : UInt8) : Bool :=
  0x30 ≤ octet && octet ≤ 0x39

/-- The values of decimal digits. -/
def digitValues (digits : Octets) : List Nat :=
  digits.map fun octet => octet.toNat - 0x30

/-- The digits at the head of the octets and what follows them. -/
def takeDigits (input : Octets) : List Nat × Octets :=
  (digitValues (input.takeWhile isDigit), input.dropWhile isDigit)

/-- The greatest significand that is kept. -/
def greatestSignificand : Nat := UInt64.size - 1

/-- A significand and how many digits of the whole part it lacks, with one more digit of the whole
part. From the first digit that no longer fits on, digits only count. -/
def pushWhole : Nat × Nat → Nat → Nat × Nat
  | (significand, dropped), digit =>
    if dropped = 0 ∧ significand * 10 + digit ≤ greatestSignificand then
      (significand * 10 + digit, 0)
    else
      (significand, dropped + 1)

/-- A significand, how many places of the fraction it has, and whether it still grows, with one
more digit of the fraction. From the first digit that no longer fits on, digits are ignored. -/
def pushPlace : Nat × Nat × Bool → Nat → Nat × Nat × Bool
  | (significand, places, grows), digit =>
    if grows ∧ significand * 10 + digit ≤ greatestSignificand then
      (significand * 10 + digit, places + 1, true)
    else
      (significand, places, false)

/-- Beyond this exponent every number is zero or too large. -/
def exponentBound : Nat := 1000000000

/-- The value of the digits of an exponent, up to a bound. -/
def exponentValue (digits : List Nat) : Nat :=
  digits.foldl (fun value digit => min (value * 10 + digit) exponentBound) 0

/-- The parts of a number as it is written. -/
structure Numeral where
  /-- Whether a minus sign stands first. -/
  negative : Bool
  /-- The digits before the point. -/
  whole : List Nat
  /-- The digits behind the point, if there is one. -/
  fraction : Option (List Nat)
  /-- The exponent, if there is one. -/
  exponent : Option Int

/-- The number that a numeral stands for, if it is not too large. -/
def Numeral.value? (numeral : Numeral) : Option Number :=
  let (significand, dropped) := numeral.whole.foldl pushWhole (0, 0)
  let (all, places, _) := (numeral.fraction.getD []).foldl pushPlace (significand, 0, true)
  let isInteger := numeral.fraction.isNone && numeral.exponent.isNone && dropped == 0
  if isInteger && !numeral.negative then
    some (.integer significand)
  else if isInteger && 0 < significand && significand ≤ UInt64.size / 2 then
    some (.integer (-significand))
  else
    (Number.Decimal.toDouble? ⟨all, dropped - places + numeral.exponent.getD 0⟩
      numeral.negative).map .double

/-- Taking a digit leaves fewer octets. -/
theorem length_takeDigits_lt {input : Octets} (h : (takeDigits input).1.isEmpty = false) :
    (takeDigits input).2.length ≤ input.length - 1 := by
  have happend := congrArg List.length (List.takeWhile_append_dropWhile (p := isDigit) (l := input))
  have hpos : 0 < (input.takeWhile isDigit).length := by
    rw [List.length_pos_iff]
    intro hnil
    simp [takeDigits, digitValues, hnil] at h
  simp only [takeDigits, List.length_append] at *
  omega

/-- The digits at the head of the octets, of which there has to be one. -/
def someDigits? (input : Octets) : Option (Scanned (List Nat) (input.length - 1)) :=
  match h : (takeDigits input).1.isEmpty with
  | true => none
  | false => some ⟨(takeDigits input).1, (takeDigits input).2, length_takeDigits_lt h⟩

/-- The digits before the point, of which only a single one may be a leading zero. -/
def wholeDigits? (input : Octets) : Option (Scanned (List Nat) (input.length - 1)) :=
  (someDigits? input).bind fun digits =>
    match digits.value with
    | 0 :: _ :: _ => none
    | _ => some digits

/-- The fraction at the head of the octets, if there is one. -/
def fraction? (input : Octets) : Option (Scanned (Option (List Nat)) input.length) :=
  match input with
  | [] => some ⟨none, [], Nat.le_refl _⟩
  | octet :: rest =>
    if octet = 0x2E then
      (someDigits? rest).map fun digits =>
        ⟨some digits.value, digits.rest, by
          have := digits.length_le
          simp only [List.length_cons]
          omega⟩
    else
      some ⟨none, octet :: rest, Nat.le_refl _⟩

/-- The sign of an exponent and the octets behind it. -/
def exponentSign (input : Octets) : Bool × Octets :=
  match input with
  | [] => (false, [])
  | octet :: rest =>
    if octet = 0x2D then (true, rest)
    else if octet = 0x2B then (false, rest)
    else (false, octet :: rest)

/-- Reading a sign adds no octets. -/
theorem length_exponentSign_le (input : Octets) :
    (exponentSign input).2.length ≤ input.length := by
  unfold exponentSign
  split
  · exact Nat.le_refl _
  · split
    · simp
    · split <;> simp

/-- The exponent at the head of the octets, if there is one. -/
def exponent? (input : Octets) : Option (Scanned (Option Int) input.length) :=
  match input with
  | [] => some ⟨none, [], Nat.le_refl _⟩
  | octet :: rest =>
    if octet = 0x65 ∨ octet = 0x45 then
      (someDigits? (exponentSign rest).2).map fun digits =>
        let magnitude : Int := exponentValue digits.value
        ⟨some (if (exponentSign rest).1 then -magnitude else magnitude), digits.rest, by
          have := digits.length_le
          have := length_exponentSign_le rest
          simp only [List.length_cons]
          omega⟩
    else
      some ⟨none, octet :: rest, Nat.le_refl _⟩

/-- The number whose octets behind a possible sign are `input`. -/
def scanNumber (negative : Bool) (input : Octets) :
    Option (Scanned (Option Number) (input.length - 1)) :=
  (wholeDigits? input).bind fun whole =>
    (fraction? whole.rest).bind fun fraction =>
      (exponent? fraction.rest).map fun exponent =>
        ⟨(Numeral.mk negative whole.value fraction.value exponent.value).value?, exponent.rest,
          Nat.le_trans exponent.length_le (Nat.le_trans fraction.length_le whole.length_le)⟩

end ApiDrift.Json
