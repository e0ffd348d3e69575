import ApiDrift.Proofs.Http.Failures
import ApiDrift.Proofs.System.History
import ApiDrift.Session

/-!
# Exchanges with the service

Requests are sent to a running service one after another, while time passes and the store fails now
and then. Whatever the service has been through, a response that is no success tells the code of its
failure and leaves what is stored; what is stored changes with a batch that is answered as a success
and in no other way.
-/

namespace ApiDrift.Http

/-- What happens to a running service. -/
inductive Happening where
  /-- A request is sent. -/
  | request (request : HttpRequest)
  /-- So many milliseconds pass. -/
  | wait (milliseconds : Nat)
  /-- The next operations of the store are set to fail. -/
  | fail (operation : StoreOperation) (fault : Fault)

/-- A request with its response, and the service before and after it. -/
structure Exchange where
  /-- The service before. -/
  before : Service
  /-- The request. -/
  request : HttpRequest
  /-- The response. -/
  response : Response
  /-- The service after. -/
  after : Service

namespace Service

/-- The exchange of a request. -/
def exchange (service : Service) (request : HttpRequest) : Exchange where
  before := service
  request := request
  response := (service.handle request).1
  after := (service.handle request).2

/-- The service after something happened. -/
def happen (service : Service) : Happening → Service
  | .request request => (service.handle request).2
  | .wait milliseconds => { service with system := service.system.advance milliseconds }
  | .fail .lookup fault => { service with system.lookupFault := fault }
  | .fail .save fault => { service with system.saveFault := fault }

/-- The service after everything happened. -/
def run (service : Service) (happenings : List Happening) : Service :=
  happenings.foldl happen service

/-- The exchange of something that happens, if it is a request. -/
def exchange? (service : Service) : Happening → Option Exchange
  | .request request => some (service.exchange request)
  | .wait _ | .fail _ _ => none

/-- The exchanges in the order in which they happen. -/
def exchanges : Service → List Happening → List Exchange
  | _, [] => []
  | service, happening :: rest =>
    (service.exchange? happening).toList ++ (service.happen happening).exchanges rest

end Service

/-- Whether a response is an envelope that tells an error code whose status is its own. -/
def Response.Tells (response : Response) (errorCode : String) : Prop :=
  ∃ code ∈ ErrorCode.all, code.code = errorCode ∧ response.status = code.status ∧
    ∀ timestamp, ((response.body.toValue? timestamp).bind fun envelope =>
      envelope.field? "errorCode") = some (.string errorCode)

/-- A response with the envelope of a failure and its status tells the code of the failure. -/
theorem Response.tells_of_failure {response : Response} {failure : EndpointFailure}
    (hstatus : response.status = failure.code.status) (hbody : response.body = .failure failure) :
    response.Tells failure.code.code := by
  refine ⟨failure.code, ErrorCode.mem_all _, rfl, hstatus, fun timestamp => ?_⟩
  rw [hbody]
  rfl

section

variable {service : Service} {request : HttpRequest}

/-- A request that is no preflight request is answered as it is routed, but for the body of the
response to a request for the head alone. -/
theorem handle_of_ne_options (service : Service) (h : request.method ≠ "OPTIONS") :
    (service.handle request).1.status = (service.route request).1.status ∧
      (request.method ≠ "HEAD" →
        (service.handle request).1.body = (service.route request).1.body) ∧
      (service.handle request).2 = (service.route request).2 := by
  have hroute : service.handle request =
      (if request.method == "HEAD" then
          ((service.route request).1.withHeaders
            (CorsPolicy.of service.settings.server.corsOrigin).headers).withoutBody
        else
          (service.route request).1.withHeaders
            (CorsPolicy.of service.settings.server.corsOrigin).headers,
        (service.route request).2) := if_neg (by simpa using h)
  rw [hroute]
  refine ⟨?_, fun hhead => ?_, rfl⟩
  · dsimp only
    split <;> rfl
  · dsimp only
    rw [if_neg (by simpa using hhead)]
    rfl

/-- A preflight request is a success and changes nothing. -/
theorem handle_of_options (service : Service) (h : request.method = "OPTIONS") :
    (service.handle request).1.status = 200 ∧ (service.handle request).2 = service := by
  rw [Service.handle, if_pos (by simpa using h)]
  exact ⟨rfl, rfl⟩

end

/-- What holds of an exchange, whatever the service has been through before. -/
structure Exchange.Sound (exchange : Exchange) : Prop where
  /-- A response is no success exactly when the request fails, which a preflight request does not. -/
  failed_iff : exchange.response.status ≠ 200 ↔ exchange.request.method ≠ "OPTIONS" ∧
    ∃ failure, Fails exchange.before exchange.request failure exchange.after
  /-- A failure changes nothing that is stored, and the response tells its code unless it is only
  the head of one. -/
  failure : ∀ failure after, exchange.request.method ≠ "OPTIONS" →
    Fails exchange.before exchange.request failure after →
      exchange.after = after ∧ after.system.store = exchange.before.system.store ∧
        (exchange.request.method ≠ "HEAD" →
          exchange.response.body = .failure failure ∧ exchange.response.Tells failure.code.code)
  /-- What is stored changes only with a success of the intake of models. -/
  stored : exchange.after.system.store ≠ exchange.before.system.store →
    exchange.request.method = "POST" ∧ exchange.request.path = "/api/models" ∧
      exchange.response.status = 200
  /-- A success of the intake of models takes in the batch that the body decodes to, and does nothing
  else. -/
  taken : exchange.request.method = "POST" → exchange.request.path = "/api/models" →
    exchange.response.status = 200 →
      ∃ models summary, decodeBody Wire.models exchange.request.body = .ok models ∧
        (exchange.before.system.ingest exchange.before.settings.limits models).1 = .ok summary ∧
        exchange.after = { exchange.before with
          system := (exchange.before.system.ingest exchange.before.settings.limits models).2 }
  /-- A batch that is taken in is answered as a success. -/
  accepted : exchange.request.method = "POST" → exchange.request.path = "/api/models" →
    ∀ models summary, decodeBody Wire.models exchange.request.body = .ok models →
      (exchange.before.system.ingest exchange.before.settings.limits models).1 = .ok summary →
        exchange.response.status = 200
  /-- The anomalies of the request that the body decodes to are told, as they are found. -/
  detected : exchange.request.method = "POST" →
    exchange.request.path = "/api/detection/validate" →
      ∀ observed anomalies, decodeBody Wire.request exchange.request.body = .ok observed →
        (exchange.before.system.detect exchange.before.settings.detection observed).1 =
            .ok anomalies →
          exchange.response.status = 200 ∧ exchange.response.body = .anomalies anomalies
  /-- A success of the check of requests is that of the request that the body decodes to. -/
  found : exchange.request.method = "POST" →
    exchange.request.path = "/api/detection/validate" → exchange.response.status = 200 →
      ∃ observed anomalies, decodeBody Wire.request exchange.request.body = .ok observed ∧
        (exchange.before.system.detect exchange.before.settings.detection observed).1 =
          .ok anomalies ∧
        exchange.response.body = .anomalies anomalies
  /-- A blank body that is not too large is missing, and nothing is done. -/
  blank : ∀ endpoint, exchange.request.Calls endpoint → endpoint ≠ .health →
    exchange.request.body.length ≤ maxBodyLength →
    exchange.request.body.all isBlankOctet = true →
      exchange.response.Tells "ERROR-4002" ∧ exchange.after = exchange.before
  /-- A body that is too large, or neither blank nor decoded, is no JSON of the right form, and
  nothing is done. -/
  unreadable : ∀ endpoint, exchange.request.Calls endpoint → endpoint ≠ .health →
    (maxBodyLength < exchange.request.body.length ∨
      (exchange.request.body.all isBlankOctet = false ∧
        endpoint.decodes exchange.request.body = false)) →
      exchange.response.Tells "ERROR-4001" ∧ exchange.after = exchange.before

section

variable {service : Service} {request : HttpRequest}

/-- A failure of a request is the one that is answered. -/
theorem Fails.exchange {failure : EndpointFailure} {after : Service}
    (hmethod : request.method ≠ "OPTIONS") (h : Fails service request failure after) :
    (service.exchange request).after = after ∧
      (request.method ≠ "HEAD" →
        (service.exchange request).response.body = .failure failure ∧
          (service.exchange request).response.Tells failure.code.code) := by
  obtain ⟨hstatus, hbody, hafter⟩ := handle_of_ne_options service hmethod
  obtain ⟨hfailed, henvelope, hend⟩ := h.eq_route
  refine ⟨hafter.trans hend, fun hhead => ?_⟩
  have hfailure := (hbody hhead).trans henvelope
  exact ⟨hfailure, Response.tells_of_failure (hstatus.trans hfailed) hfailure⟩

/-- A body that cannot be read is the failure that is answered, and nothing is done. -/
theorem exchange_of_unreadable (service : Service) {endpoint : Endpoint}
    {failure : EndpointFailure} (hcalls : request.Calls endpoint) (hreads : endpoint ≠ .health)
    (h : endpoint.Unreadable request.body failure) :
    (service.exchange request).response.Tells failure.code.code ∧
      (service.exchange request).after = service := by
  have hfails : Fails service request failure service := .unreadable hcalls h
  obtain ⟨hafter, henvelope⟩ := hfails.exchange hcalls.ne_options
  exact ⟨(henvelope (hcalls.ne_head hreads)).2, hafter⟩

/-- A request that is no preflight request is exchanged for one of the answers of the service. -/
theorem answers_exchange (service : Service) (hmethod : request.method ≠ "OPTIONS") :
    Answers service request (service.exchange request).response.status
      (service.route request).1.body (service.exchange request).after := by
  obtain ⟨hstatus, -, hafter⟩ := handle_of_ne_options service hmethod
  have h := answers_route service request
  rw [← hstatus, ← hafter] at h
  exact h

/-- Every exchange of the service is sound. -/
theorem sound_exchange (service : Service) (request : HttpRequest) :
    (service.exchange request).Sound where
  failed_iff := by
    by_cases hoptions : request.method = "OPTIONS"
    · exact ⟨fun h => absurd (handle_of_options service hoptions).1 h,
        fun h => absurd hoptions h.1⟩
    · have hstatus := (answers_exchange service hoptions).status_ne_iff
      exact ⟨fun h => ⟨hoptions, hstatus.mp h⟩, fun h => hstatus.mpr h.2⟩
  failure := by
    intro failure after hmethod hfails
    obtain ⟨hafter, henvelope⟩ := hfails.exchange hmethod
    exact ⟨hafter, hfails.store_eq, henvelope⟩
  stored := by
    intro hstore
    by_cases hoptions : request.method = "OPTIONS"
    · refine absurd ?_ hstore
      exact congrArg (fun service => service.system.store) (handle_of_options service hoptions).2
    · obtain ⟨hcalls, hstatus⟩ :=
        (answers_exchange service hoptions).calls_models_of_store_ne hstore
      obtain ⟨hmethod, hpath⟩ := calls_models_iff.mp hcalls
      exact ⟨hmethod, hpath, hstatus⟩
  taken := by
    intro hmethod hpath hstatus
    have hcalls : request.Calls .models := calls_models_iff.mpr ⟨hmethod, hpath⟩
    exact (answers_exchange service hcalls.ne_options).taken hcalls hstatus
  accepted := by
    intro hmethod hpath models summary hbody htaken
    have hcalls : request.Calls .models := calls_models_iff.mpr ⟨hmethod, hpath⟩
    obtain ⟨hstatus, -, -⟩ := handle_of_ne_options service hcalls.ne_options
    exact hstatus.trans (Answers.models hcalls hbody htaken).eq_route.1
  detected := by
    intro hmethod hpath observed anomalies hbody hfound
    have hcalls : request.Calls .detection := calls_detection_iff.mpr ⟨hmethod, hpath⟩
    obtain ⟨hstatus, hsame, -⟩ := handle_of_ne_options service hcalls.ne_options
    obtain ⟨hsuccess, htold, -⟩ := (Answers.detection hcalls hbody hfound).eq_route
    exact ⟨hstatus.trans hsuccess, (hsame (hcalls.ne_head nofun)).trans htold⟩
  found := by
    intro hmethod hpath hstatus
    have hcalls : request.Calls .detection := calls_detection_iff.mpr ⟨hmethod, hpath⟩
    obtain ⟨-, hsame, -⟩ := handle_of_ne_options service hcalls.ne_options
    obtain ⟨observed, anomalies, hbody, hfound, htold, -⟩ :=
      (answers_exchange service hcalls.ne_options).found hcalls hstatus
    exact ⟨observed, anomalies, hbody, hfound, (hsame (hcalls.ne_head nofun)).trans htold⟩
  blank := by
    intro endpoint hcalls hreads hfits hblank
    exact exchange_of_unreadable service hcalls hreads
      (Endpoint.unreadable_of_blank hreads hfits hblank)
  unreadable := by
    intro endpoint hcalls hreads hbody
    obtain ⟨failure, hunreadable, hcode⟩ := Endpoint.exists_unreadable hreads hbody
    have htells := exchange_of_unreadable service hcalls hreads hunreadable
    rw [hcode] at htells
    exact htells

end

/-- A response tells one code at most. -/
theorem Response.Tells.unique {response : Response} {a b : String} (ha : response.Tells a)
    (hb : response.Tells b) : a = b := by
  obtain ⟨-, -, -, -, ha⟩ := ha
  obtain ⟨-, -, -, -, hb⟩ := hb
  have hsame := (ha .null).symm.trans (hb .null)
  cases hsame
  rfl

/-- A request to take in blanks, one octet more than a body may have. -/
def overlongBlanks : HttpRequest :=
  ⟨"POST", "/api/models", List.replicate (maxBodyLength + 1) 0x20⟩

/-- Nothing but blanks is no JSON of the right form when there are too many of them: the length of a
body is looked at before its octets. -/
theorem tells_overlongBlanks :
    overlongBlanks.body.all isBlankOctet = true ∧
      ((Service.new {}).exchange overlongBlanks).response.Tells "ERROR-4001" ∧
      ¬((Service.new {}).exchange overlongBlanks).response.Tells "ERROR-4002" := by
  have hblank : overlongBlanks.body.all isBlankOctet = true := by
    refine List.all_eq_true.mpr fun octet hmem => ?_
    rw [List.eq_of_mem_replicate hmem]
    rfl
  have hlarge : maxBodyLength < overlongBlanks.body.length := by
    rw [overlongBlanks, List.length_replicate]
    exact Nat.lt_succ_self _
  have hcalls : overlongBlanks.Calls .models := calls_models_iff.mpr ⟨rfl, rfl⟩
  have htells := ((sound_exchange (Service.new {}) overlongBlanks).unreadable .models hcalls nofun
    (.inl hlarge)).1
  exact ⟨hblank, htells, fun hmissing => absurd (htells.unique hmissing) (by decide)⟩

/-- The batch that an exchange takes in, if it does. -/
def Exchange.batches (exchange : Exchange) : List (List Model) :=
  if exchange.request.method = "POST" ∧ exchange.request.path = "/api/models" ∧
      exchange.response.status = 200 then
    (decodeBody Wire.models exchange.request.body).toOption.toList
  else []

/-- The store after an exchange has the first models of the batch that was taken in, and for other
keys what it had before. -/
theorem find?_exchange (service : Service) (request : HttpRequest) (key : EndpointKey) :
    (service.exchange request).after.system.store.find? key =
      (latest? (service.exchange request).batches key).or (service.system.store.find? key) := by
  have hsound := sound_exchange service request
  unfold Exchange.batches
  split
  · next h =>
    obtain ⟨hmethod, hpath, hstatus⟩ := h
    obtain ⟨models, summary, hbody, htaken, hafter⟩ := hsound.taken hmethod hpath hstatus
    have haccepts : service.system.accepts service.settings.limits models = true :=
      congrArg Except.isOk htaken
    have hfind := System.find?_ingest service.settings.limits service.system models key
    rw [haccepts, if_pos rfl] at hfind
    rw [hafter, hbody]
    exact hfind.trans (by rw [← latest?_singleton]; rfl)
  · next h =>
    have hstore : (service.exchange request).after.system.store = service.system.store :=
      not_not.mp (mt hsound.stored h)
    rw [hstore]
    rfl

/-- What the store has of a key after everything happened. -/
theorem find?_run (service : Service) (happenings : List Happening) (key : EndpointKey) :
    (service.run happenings).system.store.find? key =
      (latest? ((service.exchanges happenings).flatMap Exchange.batches) key).or
        (service.system.store.find? key) := by
  induction happenings generalizing service with
  | nil => rfl
  | cons happening rest ih =>
    refine (ih (service.happen happening)).trans ?_
    cases happening with
    | request request =>
      have hexchanges : service.exchanges (.request request :: rest) =
          [service.exchange request] ++
            (service.happen (.request request)).exchanges rest := rfl
      rw [hexchanges, List.flatMap_append, List.flatMap_singleton, latest?_append, Option.or_assoc,
        ← find?_exchange service request key]
      rfl
    | wait milliseconds => rfl
    | fail operation fault => cases operation <;> rfl

/-- Whatever happens, every exchange of the service is sound. -/
theorem sound_of_mem_exchanges {service : Service} {happenings : List Happening}
    {exchange : Exchange} (h : exchange ∈ service.exchanges happenings) : exchange.Sound := by
  induction happenings generalizing service with
  | nil => cases h
  | cons happening rest ih =>
    rcases List.mem_append.mp h with hfirst | hrest
    · cases happening with
      | request request =>
        rw [List.mem_singleton.mp hfirst]
        exact sound_exchange service request
      | wait => cases hfirst
      | fail => cases hfirst
    · exact ih hrest

/-- Whatever a service has been through, and whatever happens to it, every exchange is sound, and in
the end the store has what the batches say that were answered as successes, and what it had before
of the keys that none of them has. -/
theorem exchanges_sound (service : Service) (happenings : List Happening) :
    (∀ exchange ∈ service.exchanges happenings, exchange.Sound) ∧
      ∀ key, (service.run happenings).system.store.find? key =
        (latest? ((service.exchanges happenings).flatMap Exchange.batches) key).or
          (service.system.store.find? key) :=
  ⟨fun _ => sound_of_mem_exchanges, find?_run service happenings⟩

/-- A request to take in a single model without parameters. -/
def learnBare (path : String) : HttpRequest :=
  ⟨"POST", "/api/models",
    ("[\x7b\"path\":\"" ++ path ++ "\",\"method\":\"GET\"\x7d]").toUTF8.toList⟩

/-- Orders are learned, then the store fails for users, and then an order is checked, an unknown path
is asked for, and blanks are sent. -/
def troubledOrders : List Happening :=
  [.request (learnBare "/orders"), .fail .save ⟨1, .unavailable "disk full"⟩, .wait 5,
    .request (learnBare "/users"),
    .request ⟨"POST", "/api/detection/validate",
      "\x7b\"method\":\"GET\",\"path\":\"/orders\"\x7d".toUTF8.toList⟩,
    .request ⟨"GET", "/orders", []⟩, .request ⟨"POST", "/api/models", " \n".toUTF8.toList⟩]

/-- Only the orders are stored, and each of the other responses is what its request deserves. -/
theorem exchanges_sound_troubled :
    ∃ learned refused checked unknown missing,
      (Service.new {}).exchanges troubledOrders = [learned, refused, checked, unknown, missing] ∧
        learned.response.status = 200 ∧
        (∃ models, decodeBody Wire.models learned.request.body = .ok models) ∧
        refused.response.status = 500 ∧
        (∃ failure : EndpointFailure, refused.response.Tells failure.code.code) ∧
        refused.after.system.store = refused.before.system.store ∧
        checked.response.status = 200 ∧
        (∃ anomalies, checked.response.body = .anomalies anomalies) ∧
        unknown.response.Tells "ERROR-4004" ∧ missing.response.Tells "ERROR-4002" ∧
        ((Service.new {}).run troubledOrders).system.store.find? ⟨"GET:/users"⟩ = none := by
  obtain ⟨hsound, hstore⟩ := exchanges_sound (Service.new {}) troubledOrders
  obtain ⟨hlearned, hrest⟩ := List.forall_mem_cons.mp hsound
  obtain ⟨hrefused, hrest⟩ := List.forall_mem_cons.mp hrest
  obtain ⟨hchecked, hrest⟩ := List.forall_mem_cons.mp hrest
  obtain ⟨hunknown, hrest⟩ := List.forall_mem_cons.mp hrest
  obtain ⟨hmissing, -⟩ := List.forall_mem_cons.mp hrest
  refine ⟨_, _, _, _, _, rfl, by decide +kernel, ?_, by decide +kernel, ?_, ?_, by decide +kernel,
    ?_, ?_, ?_, ?_⟩
  · obtain ⟨models, -, hbody, -⟩ := hlearned.taken rfl rfl (by decide +kernel)
    exact ⟨models, hbody⟩
  · obtain ⟨hmethod, failure, hfails⟩ := hrefused.failed_iff.mp (by decide +kernel)
    obtain ⟨-, -, henvelope⟩ := hrefused.failure failure _ hmethod hfails
    exact ⟨failure, (henvelope (by decide)).2⟩
  · obtain ⟨hmethod, failure, hfails⟩ := hrefused.failed_iff.mp (by decide +kernel)
    exact (hrefused.failure failure _ hmethod hfails).2.1
  · obtain ⟨-, anomalies, -, -, hbody⟩ := hchecked.found rfl rfl (by decide +kernel)
    exact ⟨anomalies, hbody⟩
  · obtain ⟨-, -, henvelope⟩ := hunknown.failure (.notFound "GET" "/orders") _ (by decide)
      (.notFound (by decide))
    exact (henvelope (by decide)).2
  · exact (hmissing.blank .models (calls_models_iff.mpr ⟨rfl, rfl⟩) nofun (by decide +kernel)
      (by decide +kernel)).1
  · rw [hstore]
    decide +kernel

end ApiDrift.Http
