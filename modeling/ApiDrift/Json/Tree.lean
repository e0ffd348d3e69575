import ApiDrift.Json.Octets

/-!
# JSON texts up to their first fault

A tree holds what a JSON text says up to the first place that breaks the form of JSON. There an
array or an object stays open, and the value or member that should stand next is broken. Reading
a tree in order therefore meets the first fault of the text or of its shape, whichever comes
first. The parser keeps the open arrays and objects on a list, so nesting has no limit.
-/

namespace ApiDrift.Json

/-- What a JSON text says up to its first fault. -/
inductive Tree where
  /-- The literal `null`. -/
  | null
  /-- A truth value. -/
  | boolean (value : Bool)
  /-- A number, without a value when it is too large. -/
  | number (value : Option Number)
  /-- A text, without a value when it is unreadable. -/
  | string (value : Option String)
  /-- The items of an array, and whether it ends behind them. -/
  | array (items : List Tree) (closed : Bool)
  /-- The members of an object, and whether it ends behind them. -/
  | object (members : List (Option String × Tree)) (closed : Bool)
  /-- A value that is not there. -/
  | broken
  deriving Inhabited

/-- Whether the text goes on behind this value. -/
def Tree.isWhole : Tree → Bool
  | .array _ closed => closed
  | .object _ closed => closed
  | .broken => false
  | _ => true

/-- The tree of a value. -/
def Value.toTree : Value → Tree
  | .null => .null
  | .boolean value => .boolean value
  | .number value => .number (some value)
  | .string value => .string (some value)
  | .array items => .array (items.map fun item => item.toTree) true
  | .object fields => .object (fields.map fun field => (some field.1, field.2.toTree)) true
decreasing_by
  · have := List.sizeOf_lt_of_mem ‹_›
    simp only [Value.array.sizeOf_spec]
    omega
  · have := sizeOf_value_lt ‹_›
    simp only [Value.object.sizeOf_spec]
    omega

namespace Tree

/-- An array or object that waits for a value, with what it holds before in reversed order. -/
inductive Frame where
  /-- An array that waits for an item. -/
  | item (done : List Tree)
  /-- An object that waits for the value of a member. -/
  | member (done : List (Option String × Tree)) (name : Option String)

/-- What has to come next. -/
inductive Awaits where
  /-- A value. -/
  | value
  /-- The first item or the end of an array. -/
  | firstItem
  /-- A comma or the end of an array with these items in reversed order. -/
  | nextItem (done : List Tree)
  /-- The first member or the end of an object. -/
  | firstMember
  /-- A comma or the end of an object with these members in reversed order. -/
  | nextMember (done : List (Option String × Tree))
  /-- A member behind these members in reversed order. -/
  | member (done : List (Option String × Tree))

/-- What stands there when it does not come. -/
def Awaits.cut : Awaits → Tree
  | .value => .broken
  | .firstItem => .array [] false
  | .nextItem done => .array done.reverse false
  | .firstMember => .object [] false
  | .nextMember done => .object done.reverse false
  | .member done => .object done.reverse false

/-- The whole tree when the text breaks off inside `tree`. -/
def cutOff : List Frame → Tree → Tree
  | [], tree => tree
  | .item done :: frames, tree => cutOff frames (.array (tree :: done).reverse false)
  | .member done name :: frames, tree =>
    cutOff frames (.object ((name, tree) :: done).reverse false)

/-- One step of the parser: the end of the text that was read, or what to go on with. -/
inductive Progress (bound : Nat) where
  /-- The outermost value is complete or cut off. -/
  | done (tree : Tree) (rest : Octets)
  /-- The frames, what has to come next, and the octets that remain. -/
  | more (frames : List Frame) (awaits : Awaits) (rest : Octets) (h : rest.length < bound)

/-- The step behind a complete value. -/
def complete {bound : Nat} (frames : List Frame) (tree : Tree) (rest : Octets)
    (h : rest.length < bound) : Progress bound :=
  match frames with
  | [] => .done tree rest
  | .item done :: frames => .more frames (.nextItem (tree :: done)) rest h
  | .member done name :: frames => .more frames (.nextMember ((name, tree) :: done)) rest h

/-- The step at the text `letters` of a literal, of which the first letter was read. -/
def stepLiteral {bound : Nat} (frames : List Frame) (letters : Octets) (tree : Tree)
    (rest : Octets) (h : rest.length < bound) : Progress bound :=
  if letters.isPrefixOf rest then
    complete frames tree (rest.drop letters.length) (by simp only [List.length_drop]; omega)
  else
    .done (cutOff frames .broken) []

/-- The step at the first octet of a value. -/
def stepValue {bound : Nat} (frames : List Frame) (octet : UInt8) (rest : Octets)
    (h : rest.length < bound) : Progress bound :=
  if octet = 0x5B then .more frames .firstItem rest h
  else if octet = 0x7B then .more frames .firstMember rest h
  else if octet = 0x22 then
    match scanText rest.length (some []) rest (Nat.le_refl _) with
    | some text => complete frames (.string text.value) text.rest (by
        have := text.length_le; omega)
    | none => .done (cutOff frames .broken) []
  else if octet = 0x6E then stepLiteral frames [0x75, 0x6C, 0x6C] .null rest h
  else if octet = 0x74 then stepLiteral frames [0x72, 0x75, 0x65] (.boolean true) rest h
  else if octet = 0x66 then stepLiteral frames [0x61, 0x6C, 0x73, 0x65] (.boolean false) rest h
  else if octet = 0x2D then
    match scanNumber true rest with
    | some scanned => complete frames (.number scanned.value) scanned.rest (by
        have := scanned.length_le; omega)
    | none => .done (cutOff frames .broken) []
  else
    match scanNumber false (octet :: rest) with
    | some scanned => complete frames (.number scanned.value) scanned.rest (by
        have := scanned.length_le
        simp only [List.length_cons] at this
        omega)
    | none => .done (cutOff frames .broken) []

/-- The step at the first octet of a member. Its name stands even if no value follows. -/
def stepMember {bound : Nat} (frames : List Frame) (done : List (Option String × Tree))
    (octet : UInt8) (rest : Octets) (h : rest.length < bound) : Progress bound :=
  if octet = 0x22 then
    match scanText rest.length (some []) rest (Nat.le_refl _) with
    | some name =>
      match hrest : skipSpace name.rest with
      | colon :: rest' =>
        if colon = 0x3A then
          .more (.member done name.value :: frames) .value rest' (by
            have hskip := length_skipSpace_le name.rest
            have hname := name.length_le
            rw [hrest, List.length_cons] at hskip
            omega)
        else .done (cutOff (.member done name.value :: frames) .broken) []
      | [] => .done (cutOff (.member done name.value :: frames) .broken) []
    | none => .done (cutOff frames (.object done.reverse false)) []
  else .done (cutOff frames (.object done.reverse false)) []

/-- One step of the parser. -/
def step (frames : List Frame) (awaits : Awaits) (input : Octets) : Progress input.length :=
  match hinput : skipSpace input with
  | [] => .done (cutOff frames awaits.cut) []
  | octet :: rest =>
    have h : rest.length < input.length := by
      have hskip := length_skipSpace_le input
      rw [hinput, List.length_cons] at hskip
      omega
    match awaits with
    | .value => stepValue frames octet rest h
    | .firstItem =>
      if octet = 0x5D then complete frames (.array [] true) rest h
      else stepValue (.item [] :: frames) octet rest h
    | .nextItem done =>
      if octet = 0x2C then .more (.item done :: frames) .value rest h
      else if octet = 0x5D then complete frames (.array done.reverse true) rest h
      else .done (cutOff frames (.array done.reverse false)) []
    | .firstMember =>
      if octet = 0x7D then complete frames (.object [] true) rest h
      else stepMember frames [] octet rest h
    | .nextMember done =>
      if octet = 0x2C then .more frames (.member done) rest h
      else if octet = 0x7D then complete frames (.object done.reverse true) rest h
      else .done (cutOff frames (.object done.reverse false)) []
    | .member done => stepMember frames done octet rest h

/-- The tree that the octets start with, and what follows it. -/
def parseFrom (frames : List Frame) (awaits : Awaits) (input : Octets) : Tree × Octets :=
  match step frames awaits input with
  | .done tree rest => (tree, rest)
  | .more frames awaits rest _ => parseFrom frames awaits rest
termination_by input.length

end Tree

/-- A JSON text: its tree, and whether nothing but blanks follows it. -/
structure Document where
  /-- What the text says. -/
  tree : Tree
  /-- Whether the text ends behind it. -/
  ends : Bool

/-- The document of a text given by its octets. -/
def Document.ofOctets (input : Octets) : Document :=
  let (tree, rest) := Tree.parseFrom [] .value input
  ⟨tree, (skipSpace rest).isEmpty⟩

end ApiDrift.Json
