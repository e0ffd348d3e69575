import ApiDrift.Json.Record
import ApiDrift.Report

/-!
# Reports in JSON

A suggestion is left out when there is none, and may be missing or `null` when it is read.
-/

namespace ApiDrift.Wire

open Json

/-- An error is read from its fields. -/
def reportError : Decoder ReportError :=
  .record "ValidationError"
    (.cons (.required "path" .string)
      (.cons (.required "message" .string) (.cons (.optional "suggestion" .string) .done)))
    fun (path, message, suggestion, ()) => { path, message, suggestion }

/-- A warning is read from its fields. -/
def reportWarning : Decoder ReportWarning :=
  .record "ValidationWarning"
    (.cons (.required "path" .string) (.cons (.required "message" .string) .done))
    fun (path, message, ()) => { path, message }

/-- A report is read from its fields. -/
def report : Decoder Report :=
  .record "ValidationResult"
    (.cons (.required "valid" .boolean)
      (.cons (.required "errors" (.list reportError))
        (.cons (.required "warnings" (.list reportWarning)) .done)))
    fun (valid, errors, warnings, ()) => { valid, errors, warnings }

/-- The JSON value of an error. -/
def ofReportError (error : ReportError) : Value :=
  .object
    ([("path", .string error.path), ("message", .string error.message)] ++
      (error.suggestion.map fun suggestion => ("suggestion", .string suggestion)).toList)

/-- The JSON value of a warning. -/
def ofReportWarning (warning : ReportWarning) : Value :=
  .object [("path", .string warning.path), ("message", .string warning.message)]

/-- The JSON value of a report. -/
def ofReport (report : Report) : Value :=
  .object
    [("valid", .boolean report.valid), ("errors", .array (report.errors.map ofReportError)),
      ("warnings", .array (report.warnings.map ofReportWarning))]

end ApiDrift.Wire
