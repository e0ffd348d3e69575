import ApiDrift.Http.Cors
import ApiDrift.Http.Message
import ApiDrift.Wire.Model
import ApiDrift.Wire.Request

/-!
# The service

The service has three endpoints: its health, the intake of models, and the check of an observed
request. A request with a body is decoded before anything else happens, and a preflight request
reaches no endpoint.
-/

namespace ApiDrift.Http

/-- The endpoints. -/
inductive Endpoint where
  /-- The health of the service. -/
  | health
  /-- The intake of models. -/
  | models
  /-- The check of an observed request. -/
  | detection
  deriving DecidableEq

namespace Endpoint

/-- The endpoint of a path. -/
def ofPath? (path : String) : Option Endpoint :=
  if path == "/health" then some .health
  else if path == "/api/models" then some .models
  else if path == "/api/detection/validate" then some .detection
  else none

/-- The methods of an endpoint. -/
def methods : Endpoint → List String
  | .health => ["GET", "HEAD"]
  | .models | .detection => ["POST"]

/-- The header that lists the methods of an endpoint. -/
def allow (endpoint : Endpoint) : String × String :=
  ("allow", ",".intercalate endpoint.methods)

end Endpoint

/-- The running service. -/
structure Service where
  /-- Its settings. -/
  settings : Settings
  /-- Its state. -/
  system : System

/-- The service at its start. -/
def Service.new (settings : Settings) : Service :=
  ⟨settings, System.new settings.cache⟩

/-- The most octets of a request body. -/
def maxBodyLength : Nat := 2097152

/-- Whether an octet is blank in ASCII. -/
def isBlankOctet (octet : UInt8) : Bool :=
  octet == 0x20 || octet == 0x09 || octet == 0x0A || octet == 0x0C || octet == 0x0D

/-- What a request body decodes to. -/
def decodeBody {α : Type} (decoder : Json.Decoder α) (body : Json.Octets) :
    Except EndpointFailure α :=
  if maxBodyLength < body.length then .error .bodyTooLarge
  else if body.all isBlankOctet then .error .bodyMissing
  else (decoder.ofOctets body).mapError .undecodable

namespace Service

/-- The health of the service. -/
def health (service : Service) : Health :=
  ⟨"ok", serviceVersion, .ofNat service.system.store.size, service.system.cache.stats⟩

/-- The answer of the intake of models. -/
def answerModels (service : Service) (body : Json.Octets) : Except EndpointFailure Unit × Service :=
  match decodeBody Wire.models body with
  | .error failure => (.error failure, service)
  | .ok models =>
    let (answer, system) := service.system.ingest service.settings.limits models
    ((answer.map fun _ => ()).mapError .ingestion, { service with system })

/-- The answer of the check of an observed request. -/
def answerDetection (service : Service) (body : Json.Octets) :
    Except EndpointFailure (List Anomaly) × Service :=
  match decodeBody Wire.request body with
  | .error failure => (.error failure, service)
  | .ok request =>
    let (answer, system) := service.system.detect service.settings.detection request
    (answer.mapError .detection, { service with system })

/-- The response of an endpoint to a request with one of its methods. -/
def respondAt (service : Service) (endpoint : Endpoint) (body : Json.Octets) :
    Response × Service :=
  match endpoint with
  | .health => (.json 200 (.health service.health), service)
  | .models =>
    match service.answerModels body with
    | (.ok (), service) => (⟨200, [], .empty⟩, service)
    | (.error failure, service) => (.ofFailure failure, service)
  | .detection =>
    match service.answerDetection body with
    | (.ok anomalies, service) => (.json 200 (.anomalies anomalies), service)
    | (.error failure, service) => (.ofFailure failure, service)

/-- The response to a request that is no preflight request, without the headers for pages of other
origins. -/
def route (service : Service) (request : HttpRequest) : Response × Service :=
  match Endpoint.ofPath? request.path with
  | none => (.ofFailure (.notFound request.method request.path), service)
  | some endpoint =>
    if endpoint.methods.contains request.method then service.respondAt endpoint request.body
    else
      ((Response.ofFailure (.methodNotAllowed request.method request.path)).withHeaders
        [endpoint.allow], service)

/-- The response to a preflight request. -/
def preflight (service : Service) (request : HttpRequest) : Response :=
  ⟨200,
    (CorsPolicy.of service.settings.server.corsOrigin).preflightHeaders ++
      ((Endpoint.ofPath? request.path).map Endpoint.allow).toList,
    .empty⟩

/-- The response to a request, and the service after it. -/
def handle (service : Service) (request : HttpRequest) : Response × Service :=
  if request.method == "OPTIONS" then (service.preflight request, service)
  else
    let (response, after) := service.route request
    let response :=
      response.withHeaders (CorsPolicy.of service.settings.server.corsOrigin).headers
    (if request.method == "HEAD" then response.withoutBody else response, after)

end Service

end ApiDrift.Http
