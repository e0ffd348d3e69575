/-!
# Operations that can go wrong

Some operations are not defined for all arguments: there may be nothing at a place, a text may be
cut inside a character, and a result may not fit its word. Each of them says how it goes wrong, so
that a check built from them can be shown to use them only where they are defined.
-/

namespace ApiDrift

/-- How an operation goes wrong. -/
inductive Misstep where
  /-- There is nothing at a place. -/
  | outside
  /-- A cut falls inside a character. -/
  | insideCharacter
  /-- A result does not fit its word. -/
  | overflow
  deriving DecidableEq, Repr

/-- What becomes of a number that does not fit its word. -/
inductive Overflow where
  /-- The operation goes wrong. -/
  | fails
  /-- The number is reduced to the word. -/
  | wraps
  deriving DecidableEq, Repr

namespace Checked

variable {α β : Type}

/-- The item at a place. -/
def item (items : Array α) (place : Nat) : Except Misstep α :=
  match items[place]? with
  | some found => .ok found
  | none => .error .outside

/-- The items with another one at a place. -/
def replace (items : Array α) (place : Nat) (new : α) : Except Misstep (Array α) :=
  if h : place < items.size then .ok (items.set place new) else .error .outside

/-- The items from one place up to another. -/
def between (items : Array α) (start stop : Nat) : Except Misstep (List α) :=
  if start ≤ stop ∧ stop ≤ items.size then .ok (items.extract start stop).toList
  else .error .outside

/-- A number that has to fit a word of 32 bits. -/
def word (n : Nat) : Except Misstep Nat :=
  if n < UInt32.size then .ok n else .error .overflow

/-- The difference of two numbers of a word, of which the second one is not to be greater. -/
def minus (n m : Nat) : Except Misstep Nat :=
  if m ≤ n then .ok (n - m) else .error .overflow

/-- The least number that is too great for a signed word of 32 bits, which is `2 ^ 31`. -/
def signedLimit : Nat := 2147483648

/-- A number fits a signed word of 32 bits. -/
def FitsSigned (n : Int) : Prop :=
  -signedLimit ≤ n ∧ n < signedLimit

instance (n : Int) : Decidable (FitsSigned n) :=
  inferInstanceAs (Decidable (_ ∧ _))

/-- A number in a signed word of 32 bits. -/
def signed (overflow : Overflow) (n : Int) : Except Misstep Int :=
  if FitsSigned n then .ok n
  else
    match overflow with
    | .fails => .error .overflow
    | .wraps => .ok (n.bmod UInt32.size)

/-- A number that fits the word stands in it as it is. -/
theorem signed_of_fits {n : Int} (h : FitsSigned n) (overflow : Overflow) :
    signed overflow n = .ok n :=
  if_pos h

/-- A result comes from a result of the operation before it. -/
theorem map_eq_ok_iff {f : α → β} {x : Except Misstep α} {b : β} :
    x.map f = .ok b ↔ ∃ a, x = .ok a ∧ f a = b := by
  cases x <;> simp [Except.map]

/-- A result comes from a result of the operation before it and the operation behind it. -/
theorem bind_eq_ok_iff {f : α → Except Misstep β} {x : Except Misstep α} {b : β} :
    x.bind f = .ok b ↔ ∃ a, x = .ok a ∧ f a = .ok b := by
  cases x <;> simp [Except.bind]

/-- A text before and behind an offset, which counts octets of UTF-8 and has to lie between two
characters. -/
def cut (offset : Nat) (text : List Char) : Except Misstep (List Char × List Char) :=
  if offset = 0 then .ok ([], text)
  else
    match text with
    | [] => .error .outside
    | c :: rest =>
      if c.utf8Size ≤ offset then
        (cut (offset - c.utf8Size) rest).map fun (front, back) => (c :: front, back)
      else
        .error .insideCharacter

/-- The text between two offsets. -/
def slice (text : List Char) (start stop : Nat) : Except Misstep (List Char) := do
  let (front, _) ← cut stop text
  let (_, inner) ← cut start front
  return inner

/-- Cuts between two characters, inside one and behind the last one. -/
example : slice "aé\"b".toList 1 4 = .ok "é\"".toList ∧
    slice "aé\"b".toList 2 4 = .error .insideCharacter ∧
    slice "aé\"b".toList 1 6 = .error .outside ∧ slice "ab".toList 2 1 = .error .outside :=
  ⟨rfl, rfl, rfl, rfl⟩

/-- The greatest number of the word, and the one behind it. -/
example : signed .fails 2147483647 = .ok 2147483647 ∧
    signed .fails 2147483648 = .error .overflow ∧
    signed .wraps 2147483648 = .ok (-2147483648) :=
  ⟨rfl, rfl, rfl⟩

end Checked

end ApiDrift
