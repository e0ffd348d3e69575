/-!
# Calls from pages of other origins

The settings name one origin whose pages may call the service, or any origin by an asterisk. An
origin that cannot stand in a header allows none.
-/

namespace ApiDrift.Http

/-- Which pages may call the service. -/
inductive CorsPolicy where
  /-- Pages of any origin. -/
  | any
  /-- Pages of one origin. -/
  | only (origin : String)
  /-- No pages. -/
  | none
  deriving DecidableEq

/-- Whether a text can be the value of a header. -/
def isHeaderValue (text : String) : Bool :=
  text.toList.all fun c => c == '\t' || (0x20 ≤ c.toNat && c.toNat != 0x7F)

/-- The policy for the origin of the settings. -/
def CorsPolicy.of (origin : String) : CorsPolicy :=
  if origin == "*" then .any
  else if isHeaderValue origin then .only origin
  else .none

/-- The header that names the allowed origin. -/
def allowOrigin (origin : String) : String × String :=
  ("access-control-allow-origin", origin)

/-- The headers of every response that is not one to a preflight request. -/
def CorsPolicy.headers : CorsPolicy → List (String × String)
  | .any => [allowOrigin "*", ("access-control-expose-headers", "*")]
  | .only origin => [allowOrigin origin]
  | .none => []

/-- The headers of the response to a preflight request. -/
def CorsPolicy.preflightHeaders : CorsPolicy → List (String × String)
  | .any =>
    [allowOrigin "*", ("access-control-allow-methods", "*"),
      ("access-control-allow-headers", "*")]
  | .only origin =>
    [allowOrigin origin, ("access-control-allow-methods", "GET,POST"),
      ("access-control-allow-headers", "content-type")]
  | .none => []

end ApiDrift.Http
