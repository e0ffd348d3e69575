import ApiDrift.Json.Value
import ApiDrift.Model

/-!
# Observed requests

A request is what was observed of one call: its method, its path, the texts of its query
parameters and headers, and the values of the fields of its body.
-/

namespace ApiDrift

/-- An observed request. -/
structure Request where
  /-- The method. -/
  method : String
  /-- The path. -/
  path : String
  /-- The texts of the query parameters. -/
  queryParams : Dictionary String
  /-- The texts of the headers. -/
  headers : Dictionary String
  /-- The values of the fields of the body. -/
  body : Dictionary Json.Value

/-- The key of the endpoint that a request calls. -/
def Request.key (request : Request) : EndpointKey :=
  EndpointKey.of request.method request.path

end ApiDrift
