/-!
# Reports

A report lists what is wrong with an input and what is only worth a remark. Errors block the
operation and warnings do not.
-/

namespace ApiDrift

/-- Something wrong at a place of an input. -/
structure ReportError where
  /-- The place. -/
  path : String
  /-- What is wrong. -/
  message : String
  /-- What may have been meant. -/
  suggestion : Option String
  deriving DecidableEq

/-- A remark on a place of an input. -/
structure ReportWarning where
  /-- The place. -/
  path : String
  /-- The remark. -/
  message : String
  deriving DecidableEq

/-- The outcome of a check. -/
structure Report where
  /-- Whether the input passes. -/
  valid : Bool
  /-- What is wrong, in order. -/
  errors : List ReportError
  /-- What is worth a remark, in order. -/
  warnings : List ReportWarning
  deriving DecidableEq

/-- The report of a check, which an input passes that has no errors. -/
def Report.of (errors : List ReportError) (warnings : List ReportWarning) : Report :=
  ⟨errors.isEmpty, errors, warnings⟩

/-- An error as a part of a summary. -/
def ReportError.summary (error : ReportError) : String :=
  match error.suggestion with
  | some hint => error.path ++ ": " ++ error.message ++ " (" ++ hint ++ ")"
  | none => error.path ++ ": " ++ error.message

/-- All errors in one line. -/
def Report.summary (report : Report) : String :=
  ", ".intercalate (report.errors.map ReportError.summary)

end ApiDrift
