/-!
# Sections of a request

A request has three sections whose parameters are checked on their own.
-/

namespace ApiDrift

/-- A part of a request that holds named parameters. -/
inductive Section where
  /-- The parameters of the query. -/
  | queryParam
  /-- The headers. -/
  | header
  /-- The fields of the body. -/
  | body
  deriving DecidableEq, Repr

namespace Section

/-- All sections, in the order in which they are checked. -/
def all : List Section := [.queryParam, .header, .body]

/-- The name of a section. -/
def name : Section → String
  | .queryParam => "QUERY_PARAM"
  | .header => "HEADER"
  | .body => "BODY"

/-- The place of a section in the order of checking. -/
def order : Section → Nat
  | .queryParam => 0
  | .header => 1
  | .body => 2

/-- The section of a name. -/
def ofName? (name : String) : Option Section :=
  all.find? fun sec => sec.name == name

/-- The message for a name that no section has. -/
def unknownMessage (name : String) : String :=
  "unknown section: " ++ name

/-- A section is found under its name. -/
@[simp] theorem ofName?_name (sec : Section) : ofName? sec.name = some sec := by
  cases sec <;> decide +kernel

end Section

end ApiDrift
