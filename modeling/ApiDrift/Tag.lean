import ApiDrift.Tag.Literal

/-!
# Type tags

A tag names a type of values, and its check looks at the raw text of a value. Tags are named in
learned models as they are written here, and a name that no tag has accepts no value.
-/

namespace ApiDrift

/-- A type of values. -/
inductive Tag where
  /-- Integers. -/
  | integer
  /-- Texts of one line. -/
  | text
  /-- Truth values. -/
  | boolean
  /-- List literals. -/
  | list
  /-- Calendar days. -/
  | date
  /-- Addresses of electronic mail. -/
  | email
  /-- Identifiers in groups of hexadecimal digits. -/
  | uuid
  /-- Bearer tokens. -/
  | authToken
  deriving DecidableEq, Repr

namespace Tag

/-- All tags, in the order in which they are suggested. -/
def all : List Tag := [.integer, .text, .boolean, .list, .date, .email, .uuid, .authToken]

/-- The tags whose values are quoted inside a list literal. -/
def quoted : List Tag := [.text, .date, .email, .uuid, .authToken]

/-- The tags whose values are bare inside a list literal. -/
def bare : List Tag := [.integer, .boolean]

/-- The name of a tag in a learned model. -/
def name : Tag → String
  | .integer => "Int"
  | .text => "String"
  | .boolean => "Boolean"
  | .list => "List"
  | .date => "Date"
  | .email => "Email"
  | .uuid => "UUID"
  | .authToken => "Auth-Token"

/-- The tag of a name, which has to be written as the tag names itself. -/
def ofName? (name : String) : Option Tag :=
  all.find? fun tag => tag.name == name

/-- Whether a tag accepts a raw text. -/
def accepts (tag : Tag) (text : List Char) : Bool :=
  match tag with
  | .integer => isInteger text
  | .text => isLine text
  | .boolean => isBoolean text
  | .list => isList text
  | .date => isDate text
  | .email => isEmail text
  | .uuid => isUuid text
  | .authToken => isAuthToken text

/-- Every tag is listed. -/
theorem mem_all (tag : Tag) : tag ∈ all := by
  cases tag <;> decide

/-- A tag is found under its name. -/
@[simp] theorem ofName?_name (tag : Tag) : ofName? tag.name = some tag := by
  cases tag <;> decide +kernel

/-- A name is supported exactly when it is the name of a tag. -/
theorem ofName?_eq_some_iff {name : String} {tag : Tag} :
    ofName? name = some tag ↔ tag.name = name := by
  constructor
  · intro h
    simpa using List.find?_some h
  · rintro rfl
    exact ofName?_name tag

/-- Whether a name is the name of a tag. -/
def isSupported (name : String) : Bool :=
  (ofName? name).isSome

/-- The message for a name that no tag has. -/
def unsupportedMessage (name : String) : String :=
  "unsupported type tag: '" ++ name ++ "'"

/-- Whether the tag of the given name accepts a raw text. -/
def acceptsNamed (name : String) (text : String) : Bool :=
  (ofName? name).any fun tag => tag.accepts text.toList

/-- Whether one of the named tags accepts a raw text. No names place no constraint. -/
def acceptsAny (names : List String) (text : String) : Bool :=
  names.isEmpty || names.any fun name => acceptsNamed name text

/-- A text has one of the named types when there are no names or a tag of one of them accepts it. -/
theorem acceptsAny_iff {names : List String} {text : String} :
    acceptsAny names text = true ↔
      names = [] ∨ ∃ tag : Tag, tag.name ∈ names ∧ tag.accepts text.toList = true := by
  rw [acceptsAny, Bool.or_eq_true, List.isEmpty_iff, List.any_eq_true]
  refine or_congr_right ?_
  simp only [acceptsNamed, Option.any_eq_true, ofName?_eq_some_iff]
  constructor
  · rintro ⟨_, hmem, tag, rfl, haccepts⟩
    exact ⟨tag, hmem, haccepts⟩
  · rintro ⟨tag, hmem, haccepts⟩
    exact ⟨_, hmem, tag, rfl, haccepts⟩

/-- An element between quotes is a leaf exactly when a quoted tag accepts what stands between. -/
theorem isQuotable_eq_any (text : List Char) :
    isQuotable text = quoted.any fun tag => tag.accepts text := by
  simp [isQuotable, quoted, accepts, Bool.or_assoc]

end Tag

end ApiDrift
