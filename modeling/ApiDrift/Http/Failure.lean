import ApiDrift.Detection
import ApiDrift.Http.ErrorCode
import ApiDrift.Ingestion
import ApiDrift.Json.Failure

/-!
# Failures of endpoints

A failure has a cause. The cause decides the error code and the text that is meant for debugging,
and both are sent in an envelope.
-/

namespace ApiDrift.Http

/-- Why an endpoint does not answer as it was asked to. -/
inductive EndpointFailure where
  /-- The request body exceeds the limit. -/
  | bodyTooLarge
  /-- The request body is empty or blank. -/
  | bodyMissing
  /-- The request body does not decode. -/
  | undecodable (failure : Json.Failure)
  /-- The path has no endpoint. -/
  | notFound (method path : String)
  /-- The endpoint does not have the method. -/
  | methodNotAllowed (method path : String)
  /-- The batch was not taken in. -/
  | ingestion (error : IngestionError)
  /-- There is no list of anomalies. -/
  | detection (error : DetectionError)

namespace EndpointFailure

/-- The error code of a failure. -/
def code : EndpointFailure → ErrorCode
  | .bodyTooLarge | .undecodable _ => .invalidJsonFormat
  | .bodyMissing => .missingRequestBody
  | .notFound _ _ => .resourceNotFound
  | .methodNotAllowed _ _ => .methodNotAllowed
  | .ingestion .emptyBatch => .emptyModelList
  | .ingestion (.batchTooLarge _ _) => .modelListTooLarge
  | .ingestion (.invalidModels _) => .invalidModelSyntax
  | .ingestion (.storage _) => .internalError
  | .detection (.invalidRequest _) => .invalidJsonFormat
  | .detection (.unavailable _) => .serviceUnavailable

/-- The text for debugging. -/
def debugMessage : EndpointFailure → String
  | .bodyTooLarge => "Failed to buffer the request body: length limit exceeded"
  | .bodyMissing => "request body is empty"
  | .undecodable .malformed => "JsonSyntax"
  | .undecodable (.mismatch cause) => cause.message
  | .notFound method path => "Method: " ++ method ++ ", URL: " ++ path
  | .methodNotAllowed method path =>
    "Request method '" ++ method ++ "' is not supported for " ++ path
  | .ingestion error => error.message
  | .detection (.invalidRequest report) => report.summary
  | .detection (.unavailable error) => error.message

end EndpointFailure

end ApiDrift.Http
