import ApiDrift.Report
import ApiDrift.Request

/-!
# Rules for requests

A request has to have a method and a path that are not blank. Its sections may be empty.
-/

namespace ApiDrift

/-- The error for a text that must not be blank. -/
def blankError (text path message : String) : List ReportError :=
  if Text.hasText text then [] else [⟨path, message, none⟩]

/-- The report on a request. -/
def reportRequest (request : Request) : Report :=
  Report.of
    (blankError request.method "method" "HTTP method is missing" ++
      blankError request.path "path" "path is missing") []

end ApiDrift
