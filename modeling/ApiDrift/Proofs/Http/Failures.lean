import ApiDrift.Http.Service
import ApiDrift.Proofs.Ingestion.Refusal

/-!
# Where the service fails

A request fails because of its path, because of its method, because its body cannot be read, or
because the intake of models or the check of a request has no better answer. Each of these failures
is answered with an envelope whose code decides the status, and none of them changes what is stored.
-/

namespace ApiDrift

namespace System

/-- A request for a key leaves the store as it is. -/
theorem get_store (system : System) (key : EndpointKey) :
    (system.get key).2.store = system.store := by
  unfold get access
  rcases system.cache.access system.now key with ⟨_ | _ | _, cache⟩ <;> rfl

/-- The check of a request leaves the store as it is. -/
theorem detect_store (settings : DetectionSettings) (system : System) (request : Request) :
    (system.detect settings request).2.store = system.store := by
  unfold detect
  dsimp only
  split
  · exact system.get_store request.key
  · rfl

end System

namespace Http

/-- Why a body cannot be read, by rank. A body that is too large is not looked at, and one that is
blank is not decoded. -/
inductive Unreadable {α : Type} (decoder : Json.Decoder α) (body : Json.Octets) :
    EndpointFailure → Prop where
  /-- The body has too many octets. -/
  | tooLarge (hlarge : maxBodyLength < body.length) : Unreadable decoder body .bodyTooLarge
  /-- There is nothing but blanks in the body. -/
  | blank (hfits : body.length ≤ maxBodyLength) (hblank : body.all isBlankOctet = true) :
    Unreadable decoder body .bodyMissing
  /-- The body does not decode. -/
  | undecodable {cause : Json.Failure} (hfits : body.length ≤ maxBodyLength)
    (hblank : body.all isBlankOctet = false) (hcause : decoder.ofOctets body = .error cause) :
    Unreadable decoder body (.undecodable cause)

/-- A body decodes to a failure exactly when it cannot be read. -/
theorem decodeBody_eq_error_iff {α : Type} {decoder : Json.Decoder α} {body : Json.Octets}
    {failure : EndpointFailure} :
    decodeBody decoder body = .error failure ↔ Unreadable decoder body failure := by
  unfold decodeBody
  constructor
  · intro h
    split at h
    · next hlarge =>
      cases h
      exact .tooLarge hlarge
    · next hlarge =>
      have hfits := Nat.not_lt.mp hlarge
      split at h
      · next hblank =>
        cases h
        exact .blank hfits hblank
      · next hblank =>
        cases hdecoded : decoder.ofOctets body with
        | ok value =>
          rw [hdecoded] at h
          cases h
        | error cause =>
          rw [hdecoded] at h
          cases h
          exact .undecodable hfits (Bool.not_eq_true _ ▸ hblank) hdecoded
  · intro h
    cases h with
    | tooLarge hlarge => rw [if_pos hlarge]
    | blank hfits hblank => rw [if_neg (Nat.not_lt.mpr hfits), if_pos hblank]
    | undecodable hfits hblank hcause =>
      rw [if_neg (Nat.not_lt.mpr hfits), if_neg (by simp [hblank]), hcause]
      rfl

/-- A body that is too large, or neither blank nor decoded, is no JSON of the right form. -/
theorem exists_unreadable {α : Type} {decoder : Json.Decoder α} {body : Json.Octets}
    (h : maxBodyLength < body.length ∨
      (body.all isBlankOctet = false ∧ (decoder.ofOctets body).isOk = false)) :
    ∃ failure, Unreadable decoder body failure ∧ failure.code = .invalidJsonFormat := by
  by_cases hlarge : maxBodyLength < body.length
  · exact ⟨.bodyTooLarge, .tooLarge hlarge, rfl⟩
  · obtain ⟨hblank, hfails⟩ := h.resolve_left hlarge
    cases hdecoded : decoder.ofOctets body with
    | ok value =>
      rw [hdecoded] at hfails
      cases hfails
    | error cause =>
      exact ⟨.undecodable cause, .undecodable (Nat.not_lt.mp hlarge) hblank hdecoded, rfl⟩

namespace Endpoint

/-- Whether a body decodes to what an endpoint takes. -/
def decodes (endpoint : Endpoint) (body : Json.Octets) : Bool :=
  match endpoint with
  | .health => true
  | .models => (Wire.models.ofOctets body).isOk
  | .detection => (Wire.request.ofOctets body).isOk

/-- The failures of an endpoint to read a body. The health of the service is told without a look at
the body. -/
def Unreadable (endpoint : Endpoint) (body : Json.Octets) (failure : EndpointFailure) : Prop :=
  match endpoint with
  | .health => False
  | .models => Http.Unreadable Wire.models body failure
  | .detection => Http.Unreadable Wire.request body failure

variable {endpoint : Endpoint} {body : Json.Octets}

/-- A blank body is missing for every endpoint that reads one. -/
theorem unreadable_of_blank (h : endpoint ≠ .health) (hfits : body.length ≤ maxBodyLength)
    (hblank : body.all isBlankOctet = true) : endpoint.Unreadable body .bodyMissing := by
  cases endpoint with
  | health => exact absurd rfl h
  | models => exact .blank hfits hblank
  | detection => exact .blank hfits hblank

/-- A body that is too large, or neither blank nor decoded, is no JSON of the form that an endpoint
takes. -/
theorem exists_unreadable (h : endpoint ≠ .health)
    (hbody : maxBodyLength < body.length ∨
      (body.all isBlankOctet = false ∧ endpoint.decodes body = false)) :
    ∃ failure, endpoint.Unreadable body failure ∧ failure.code = .invalidJsonFormat := by
  cases endpoint with
  | health => exact absurd rfl h
  | models => exact Http.exists_unreadable hbody
  | detection => exact Http.exists_unreadable hbody

/-- The path of an endpoint. -/
def path : Endpoint → String
  | .health => "/health"
  | .models => "/api/models"
  | .detection => "/api/detection/validate"

/-- An endpoint is found under its path and under no other one. -/
theorem ofPath?_eq_some_iff {text : String} :
    ofPath? text = some endpoint ↔ text = endpoint.path := by
  constructor
  · intro h
    unfold ofPath? at h
    split at h
    · next hpath =>
      cases h
      exact beq_iff_eq.mp hpath
    · split at h
      · next hpath =>
        cases h
        exact beq_iff_eq.mp hpath
      · split at h
        · next hpath =>
          cases h
          exact beq_iff_eq.mp hpath
        · cases h
  · rintro rfl
    cases endpoint <;> decide

end Endpoint

/-- Whether a request has the path of an endpoint and one of its methods. -/
def HttpRequest.Calls (request : HttpRequest) (endpoint : Endpoint) : Prop :=
  Endpoint.ofPath? request.path = some endpoint ∧ request.method ∈ endpoint.methods

/-- The failure of a request that is no preflight request, and the service after it. -/
inductive Fails (service : Service) (request : HttpRequest) : EndpointFailure → Service → Prop where
  /-- No endpoint has the path. -/
  | notFound (hpath : Endpoint.ofPath? request.path = none) :
    Fails service request (.notFound request.method request.path) service
  /-- The endpoint does not have the method. -/
  | methodNotAllowed {endpoint : Endpoint} (hpath : Endpoint.ofPath? request.path = some endpoint)
    (hmethod : request.method ∉ endpoint.methods) :
    Fails service request (.methodNotAllowed request.method request.path) service
  /-- The endpoint cannot read the body. -/
  | unreadable {endpoint : Endpoint} {failure : EndpointFailure} (hcalls : request.Calls endpoint)
    (hbody : endpoint.Unreadable request.body failure) : Fails service request failure service
  /-- The batch is refused. -/
  | ingestion {models : List Model} {error : IngestionError} (hcalls : request.Calls .models)
    (hbody : decodeBody Wire.models request.body = .ok models)
    (hrefused : (service.system.ingest service.settings.limits models).1 = .error error) :
    Fails service request (.ingestion error)
      { service with system := (service.system.ingest service.settings.limits models).2 }
  /-- There is no list of anomalies. -/
  | detection {observed : Request} {error : DetectionError} (hcalls : request.Calls .detection)
    (hbody : decodeBody Wire.request request.body = .ok observed)
    (hfails : (service.system.detect service.settings.detection observed).1 = .error error) :
    Fails service request (.detection error)
      { service with system := (service.system.detect service.settings.detection observed).2 }

/-- The status and the body of the response to a request that is no preflight request, and the
service after it. -/
inductive Answers (service : Service) (request : HttpRequest) : Nat → Body → Service → Prop where
  /-- The request fails. -/
  | failure {failure : EndpointFailure} {after : Service}
    (h : Fails service request failure after) :
    Answers service request failure.code.status (.failure failure) after
  /-- The health of the service is told. -/
  | health (hcalls : request.Calls .health) :
    Answers service request 200 (.health service.health) service
  /-- The batch is taken in. -/
  | models {models : List Model} {summary : IngestionSummary} (hcalls : request.Calls .models)
    (hbody : decodeBody Wire.models request.body = .ok models)
    (htaken : (service.system.ingest service.settings.limits models).1 = .ok summary) :
    Answers service request 200 .empty
      { service with system := (service.system.ingest service.settings.limits models).2 }
  /-- The anomalies of the request are told. -/
  | detection {observed : Request} {anomalies : List Anomaly} (hcalls : request.Calls .detection)
    (hbody : decodeBody Wire.request request.body = .ok observed)
    (hfound : (service.system.detect service.settings.detection observed).1 = .ok anomalies) :
    Answers service request 200 (.anomalies anomalies)
      { service with system := (service.system.detect service.settings.detection observed).2 }

section

variable {service : Service} {request : HttpRequest}

/-- A decoded batch is answered as it is taken in. -/
theorem answerModels_of_ok {body : Json.Octets} {models : List Model}
    (h : decodeBody Wire.models body = .ok models) :
    service.answerModels body =
      (((service.system.ingest service.settings.limits models).1.map fun _ => ()).mapError
          .ingestion,
        { service with system := (service.system.ingest service.settings.limits models).2 }) := by
  rw [Service.answerModels, h]

/-- A decoded request is answered as it is checked. -/
theorem answerDetection_of_ok {body : Json.Octets} {observed : Request}
    (h : decodeBody Wire.request body = .ok observed) :
    service.answerDetection body =
      ((service.system.detect service.settings.detection observed).1.mapError .detection,
        { service with
          system := (service.system.detect service.settings.detection observed).2 }) := by
  rw [Service.answerDetection, h]

/-- A request that calls an endpoint is answered by it. -/
theorem route_of_calls {endpoint : Endpoint} (h : request.Calls endpoint) :
    service.route request = service.respondAt endpoint request.body := by
  rw [Service.route, h.1]
  exact if_pos (List.contains_iff_mem.mpr h.2)

/-- Whatever a request is, it is answered in one of these ways. -/
theorem answers_route (service : Service) (request : HttpRequest) :
    Answers service request (service.route request).1.status (service.route request).1.body
      (service.route request).2 := by
  cases hpath : Endpoint.ofPath? request.path with
  | none =>
    rw [Service.route, hpath]
    exact .failure (.notFound hpath)
  | some endpoint =>
    by_cases hmethod : request.method ∈ endpoint.methods
    · have hcalls : request.Calls endpoint := ⟨hpath, hmethod⟩
      rw [route_of_calls hcalls]
      cases endpoint with
      | health => exact .health hcalls
      | models =>
        rw [Service.respondAt]
        cases hbody : decodeBody Wire.models request.body with
        | error failure =>
          rw [Service.answerModels, hbody]
          exact .failure (.unreadable hcalls (decodeBody_eq_error_iff.mp hbody))
        | ok models =>
          rw [answerModels_of_ok hbody]
          cases hanswer : (service.system.ingest service.settings.limits models).1 with
          | error error => exact .failure (.ingestion hcalls hbody hanswer)
          | ok summary => exact .models hcalls hbody hanswer
      | detection =>
        rw [Service.respondAt]
        cases hbody : decodeBody Wire.request request.body with
        | error failure =>
          rw [Service.answerDetection, hbody]
          exact .failure (.unreadable hcalls (decodeBody_eq_error_iff.mp hbody))
        | ok observed =>
          rw [answerDetection_of_ok hbody]
          cases hanswer : (service.system.detect service.settings.detection observed).1 with
          | error error => exact .failure (.detection hcalls hbody hanswer)
          | ok anomalies => exact .detection hcalls hbody hanswer
    · rw [Service.route, hpath]
      dsimp only
      rw [if_neg (mt List.contains_iff_mem.mp hmethod)]
      exact .failure (.methodNotAllowed hpath hmethod)

/-- A failure is answered with its envelope. -/
theorem Fails.eq_route {failure : EndpointFailure} {after : Service}
    (h : Fails service request failure after) :
    (service.route request).1.status = failure.code.status ∧
      (service.route request).1.body = .failure failure ∧ (service.route request).2 = after := by
  cases h with
  | notFound hpath =>
    rw [Service.route, hpath]
    exact ⟨rfl, rfl, rfl⟩
  | methodNotAllowed hpath hmethod =>
    rw [Service.route, hpath]
    dsimp only
    rw [if_neg (mt List.contains_iff_mem.mp hmethod)]
    exact ⟨rfl, rfl, rfl⟩
  | @unreadable endpoint failure hcalls hbody =>
    rw [route_of_calls hcalls]
    cases endpoint with
    | health => exact hbody.elim
    | models =>
      rw [Service.respondAt, Service.answerModels, decodeBody_eq_error_iff.mpr hbody]
      exact ⟨rfl, rfl, rfl⟩
    | detection =>
      rw [Service.respondAt, Service.answerDetection, decodeBody_eq_error_iff.mpr hbody]
      exact ⟨rfl, rfl, rfl⟩
  | ingestion hcalls hbody hrefused =>
    rw [route_of_calls hcalls, Service.respondAt, answerModels_of_ok hbody, hrefused]
    exact ⟨rfl, rfl, rfl⟩
  | detection hcalls hbody hfails =>
    rw [route_of_calls hcalls, Service.respondAt, answerDetection_of_ok hbody, hfails]
    exact ⟨rfl, rfl, rfl⟩

/-- A request is answered in no other way. -/
theorem Answers.eq_route {status : Nat} {body : Body} {after : Service}
    (h : Answers service request status body after) :
    (service.route request).1.status = status ∧ (service.route request).1.body = body ∧
      (service.route request).2 = after := by
  cases h with
  | failure h => exact h.eq_route
  | health hcalls =>
    rw [route_of_calls hcalls]
    exact ⟨rfl, rfl, rfl⟩
  | models hcalls hbody htaken =>
    rw [route_of_calls hcalls, Service.respondAt, answerModels_of_ok hbody, htaken]
    exact ⟨rfl, rfl, rfl⟩
  | detection hcalls hbody hfound =>
    rw [route_of_calls hcalls, Service.respondAt, answerDetection_of_ok hbody, hfound]
    exact ⟨rfl, rfl, rfl⟩

/-- A failure leaves what is stored. -/
theorem Fails.store_eq {failure : EndpointFailure} {after : Service}
    (h : Fails service request failure after) : after.system.store = service.system.store := by
  cases h with
  | ingestion _ _ hrefused =>
    exact (congrArg System.store (System.ingest_snd_of_error hrefused)).trans rfl
  | detection => exact System.detect_store _ _ _
  | _ => rfl

/-- No code of a failure has the status of a success. -/
theorem ErrorCode.status_ne (code : ErrorCode) : code.status ≠ 200 := by
  cases code <;> decide

/-- A request calls one endpoint at most. -/
theorem HttpRequest.Calls.unique {endpoint other : Endpoint} (h : request.Calls endpoint)
    (hother : request.Calls other) : endpoint = other :=
  Option.some.inj (h.1.symm.trans hother.1)

/-- A request calls the intake of models exactly when it is sent to its path as a `POST`. -/
theorem calls_models_iff :
    request.Calls .models ↔ request.method = "POST" ∧ request.path = "/api/models" := by
  rw [HttpRequest.Calls, Endpoint.ofPath?_eq_some_iff, and_comm]
  exact and_congr_left' List.mem_singleton

/-- A request calls the check of requests exactly when it is sent to its path as a `POST`. -/
theorem calls_detection_iff :
    request.Calls .detection ↔
      request.method = "POST" ∧ request.path = "/api/detection/validate" := by
  rw [HttpRequest.Calls, Endpoint.ofPath?_eq_some_iff, and_comm]
  exact and_congr_left' List.mem_singleton

/-- A preflight request calls no endpoint. -/
theorem HttpRequest.Calls.ne_options {endpoint : Endpoint} (h : request.Calls endpoint) :
    request.method ≠ "OPTIONS" := by
  intro hoptions
  have hmethod := h.2
  rw [hoptions] at hmethod
  revert hmethod
  cases endpoint <;> decide

/-- Every endpoint that reads a body is asked for more than the head of its response. -/
theorem HttpRequest.Calls.ne_head {endpoint : Endpoint} (h : request.Calls endpoint)
    (hreads : endpoint ≠ .health) : request.method ≠ "HEAD" := by
  intro hhead
  have hmethod := h.2
  rw [hhead] at hmethod
  revert hmethod hreads
  cases endpoint <;> decide

namespace Answers

variable {status : Nat} {body : Body} {after : Service}

/-- A response is no success exactly when the request fails. -/
theorem status_ne_iff (h : Answers service request status body after) :
    status ≠ 200 ↔ ∃ failure, Fails service request failure after := by
  constructor
  · intro hstatus
    cases h with
    | failure h => exact ⟨_, h⟩
    | _ => exact absurd rfl hstatus
  · rintro ⟨cause, hfails⟩
    rw [← h.eq_route.1, hfails.eq_route.1]
    exact cause.code.status_ne

/-- What is stored changes only when a batch is taken in. -/
theorem calls_models_of_store_ne (h : Answers service request status body after)
    (hstore : after.system.store ≠ service.system.store) :
    request.Calls .models ∧ status = 200 := by
  cases h with
  | failure h => exact absurd h.store_eq hstore
  | health => exact absurd rfl hstore
  | models hcalls => exact ⟨hcalls, rfl⟩
  | detection => exact absurd (System.detect_store _ _ _) hstore

/-- A success of the intake of models is that of a batch that was taken in. -/
theorem taken (h : Answers service request status body after) (hcalls : request.Calls .models)
    (hstatus : status = 200) :
    ∃ models summary, decodeBody Wire.models request.body = .ok models ∧
      (service.system.ingest service.settings.limits models).1 = .ok summary ∧
      after = { service with
        system := (service.system.ingest service.settings.limits models).2 } := by
  cases h with
  | failure h => exact absurd hstatus (ErrorCode.status_ne _)
  | health hother => cases hcalls.unique hother
  | models _ hbody htaken => exact ⟨_, _, hbody, htaken, rfl⟩
  | detection hother => cases hcalls.unique hother

/-- A success of the check of requests is that of a list of anomalies. -/
theorem found (h : Answers service request status body after) (hcalls : request.Calls .detection)
    (hstatus : status = 200) :
    ∃ observed anomalies, decodeBody Wire.request request.body = .ok observed ∧
      (service.system.detect service.settings.detection observed).1 = .ok anomalies ∧
      body = .anomalies anomalies ∧
      after = { service with
        system := (service.system.detect service.settings.detection observed).2 } := by
  cases h with
  | failure h => exact absurd hstatus (ErrorCode.status_ne _)
  | health hother => cases hcalls.unique hother
  | models hother => cases hcalls.unique hother
  | detection _ hbody hfound => exact ⟨_, _, hbody, hfound, rfl, rfl⟩

end Answers

end

end Http

end ApiDrift
