import ApiDrift.Section
import ApiDrift.Text.Blank
import ApiDrift.Text.Case

/-!
# Learned models

A learned model says which parameters the requests to one endpoint have. Endpoints are identified
by a key, the method without surrounding blanks in capital form, a colon and the path as it is.
-/

namespace ApiDrift

/-- What is learned of one parameter. -/
structure Parameter where
  /-- The name of the parameter. -/
  name : String
  /-- The names of the types that its values may have. -/
  types : List String
  /-- Whether a request has to have it. -/
  required : Bool
  deriving DecidableEq

/-- What is learned of one endpoint. -/
structure Model where
  /-- The path of the endpoint. -/
  path : String
  /-- The method of the endpoint, as it was learned. -/
  method : String
  /-- The parameters of the query. -/
  queryParams : List Parameter
  /-- The headers. -/
  headers : List Parameter
  /-- The fields of the body. -/
  body : List Parameter
  deriving DecidableEq

/-- The identity of an endpoint. -/
structure EndpointKey where
  /-- The method, a colon and the path. -/
  text : String
  deriving DecidableEq

/-- A method without surrounding blanks and in capital form. -/
def normalizeMethod (method : String) : String :=
  String.ofList (Text.toCapital (Text.trim method.toList))

/-- The key of a method and a path. -/
def EndpointKey.of (method path : String) : EndpointKey :=
  ⟨normalizeMethod method ++ ":" ++ path⟩

/-- The key of the endpoint that a model describes. -/
def Model.key (model : Model) : EndpointKey :=
  EndpointKey.of model.method model.path

/-- The parameters that a model declares in a section. -/
def Model.parameters (model : Model) : Section → List Parameter
  | .queryParam => model.queryParams
  | .header => model.headers
  | .body => model.body

end ApiDrift
