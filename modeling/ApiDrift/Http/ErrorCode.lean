/-!
# Error codes

Every failure of an endpoint has a code, and the code decides the status of the response and the
message for the user.
-/

namespace ApiDrift.Http

/-- The kinds of failures. -/
inductive ErrorCode where
  /-- An unexpected failure. -/
  | internalError
  /-- A request body that does not decode, or a request that lacks its identity. -/
  | invalidJsonFormat
  /-- A request without a body. -/
  | missingRequestBody
  /-- A path without an endpoint. -/
  | resourceNotFound
  /-- A method that an endpoint does not have. -/
  | methodNotAllowed
  /-- A batch without models. -/
  | emptyModelList
  /-- A batch with a model that breaks a rule. -/
  | invalidModelSyntax
  /-- A batch with too many models. -/
  | modelListTooLarge
  /-- A model that cannot be looked up. -/
  | serviceUnavailable
  deriving DecidableEq, Repr

namespace ErrorCode

/-- All codes. -/
def all : List ErrorCode :=
  [.internalError, .invalidJsonFormat, .missingRequestBody, .resourceNotFound, .methodNotAllowed,
    .emptyModelList, .invalidModelSyntax, .modelListTooLarge, .serviceUnavailable]

/-- The name of a code. -/
def name : ErrorCode → String
  | .internalError => "InternalError"
  | .invalidJsonFormat => "InvalidJsonFormat"
  | .missingRequestBody => "MissingRequestBody"
  | .resourceNotFound => "ResourceNotFound"
  | .methodNotAllowed => "MethodNotAllowed"
  | .emptyModelList => "EmptyModelList"
  | .invalidModelSyntax => "InvalidModelSyntax"
  | .modelListTooLarge => "ModelListTooLarge"
  | .serviceUnavailable => "ServiceUnavailable"

/-- The code as clients see it. -/
def code : ErrorCode → String
  | .internalError => "ERROR-5000"
  | .invalidJsonFormat => "ERROR-4001"
  | .missingRequestBody => "ERROR-4002"
  | .resourceNotFound => "ERROR-4004"
  | .methodNotAllowed => "ERROR-4005"
  | .emptyModelList => "ERROR-4021"
  | .invalidModelSyntax => "ERROR-4022"
  | .modelListTooLarge => "ERROR-4023"
  | .serviceUnavailable => "ERROR-5030"

/-- The status of a response with a code. -/
def status : ErrorCode → Nat
  | .internalError => 500
  | .invalidJsonFormat | .missingRequestBody | .emptyModelList | .invalidModelSyntax => 400
  | .resourceNotFound => 404
  | .methodNotAllowed => 405
  | .modelListTooLarge => 413
  | .serviceUnavailable => 503

/-- The message for the user. -/
def message : ErrorCode → String
  | .internalError => "An unexpected error occurred"
  | .invalidJsonFormat => "Malformed JSON request"
  | .missingRequestBody => "Request body is missing"
  | .resourceNotFound => "The requested resource was not found"
  | .methodNotAllowed => "HTTP method not supported for this endpoint"
  | .emptyModelList => "The provided model list cannot be empty"
  | .invalidModelSyntax => "The provided model definition is invalid"
  | .modelListTooLarge => "Batch size exceeds limit"
  | .serviceUnavailable => "Schema lookup is temporarily unavailable"

/-- Every code is listed. -/
theorem mem_all (code : ErrorCode) : code ∈ all := by
  cases code <;> decide

/-- Clients can tell the codes apart. -/
theorem code_injective {a b : ErrorCode} (h : a.code = b.code) : a = b := by
  revert h
  cases a <;> cases b <;> decide

end ErrorCode

end ApiDrift.Http
