import ApiDrift.Http.Failure
import ApiDrift.Json.Octets
import ApiDrift.Wire.Anomaly
import ApiDrift.Wire.Health

/-!
# Requests and responses

Only what the service looks at is kept of a request: its method, the path of its target, and its
body. A response has a status, the headers that the service sets, and a body.
-/

namespace ApiDrift.Http

/-- A request. -/
structure HttpRequest where
  /-- The method. -/
  method : String
  /-- The path of the target. -/
  path : String
  /-- The octets of the body. -/
  body : Json.Octets

/-- The body of a response. -/
inductive Body where
  /-- No body. -/
  | empty
  /-- The health of the service. -/
  | health (health : Health)
  /-- The anomalies of a request. -/
  | anomalies (anomalies : List Anomaly)
  /-- The envelope of a failure. -/
  | failure (failure : EndpointFailure)

/-- A response. -/
structure Response where
  /-- The status. -/
  status : Nat
  /-- The names and values of the headers. -/
  headers : List (String × String)
  /-- The body. -/
  body : Body

/-- The path of the target of a request, which may be a path, a whole address or an asterisk. It
ends before a query or fragment. -/
def pathOfTarget (target : String) : String :=
  let untilQuery (text : List Char) := text.takeWhile fun c => c != '?' && c != '#'
  match target.toList with
  | '/' :: rest => String.ofList (untilQuery ('/' :: rest))
  | ['*'] => "*"
  | text =>
    match target.splitOn "://" with
    | _ :: _ :: _ =>
      let address := (text.dropWhile (· != ':')).drop 3
      match untilQuery (address.dropWhile fun c => c != '/' && c != '?' && c != '#') with
      | [] => "/"
      | path => String.ofList path
    | _ => ""

/-- The envelope of a failure, sent at a time. -/
def ofFailure (timestamp : Json.Value) (failure : EndpointFailure) : Json.Value :=
  .object
    [("timestamp", timestamp), ("errorCode", .string failure.code.code),
      ("message", .string failure.code.message), ("debugMessage", .string failure.debugMessage)]

/-- The JSON value of a body sent at a time, none for no body. -/
def Body.toValue? (timestamp : Json.Value) : Body → Option Json.Value
  | .empty => none
  | .health state => some (Wire.ofHealth state)
  | .anomalies found => some (Wire.ofAnomalies found)
  | .failure cause => some (ofFailure timestamp cause)

/-- A response with a body in JSON. -/
def Response.json (status : Nat) (body : Body) : Response :=
  ⟨status, [("content-type", "application/json")], body⟩

/-- The response of a failure. -/
def Response.ofFailure (failure : EndpointFailure) : Response :=
  Response.json failure.code.status (.failure failure)

/-- A response with further headers. -/
def Response.withHeaders (response : Response) (headers : List (String × String)) : Response :=
  { response with headers := response.headers ++ headers }

/-- A response whose body is not sent. -/
def Response.withoutBody (response : Response) : Response :=
  { response with body := .empty }

end ApiDrift.Http
