import ApiDrift.Detection
import ApiDrift.Ingestion

/-!
# Sessions

A session runs single operations against a system whose clock only moves when told to. The next
lookup in the store may be armed with actions that happen while the load is running: other
requests, further callers that join the load, or the end of the load without a result.
-/

namespace ApiDrift

/-- The answer to a request for a key. -/
inductive LookupAnswer where
  /-- What the key was looked up as. -/
  | found (model : CachedModel)
  /-- There is no answer. -/
  | failed (error : StoreError)
  /-- The load that the request led ended without a result. -/
  | unwound

/-- What happens while a load is running. -/
inductive LoadAction where
  /-- A request to drop a key. -/
  | evict (key : EndpointKey)
  /-- So many milliseconds pass. -/
  | advance (milliseconds : Nat)
  /-- Models are written to the store. -/
  | save (models : List Model)
  /-- A request for a key is served. -/
  | get (key : EndpointKey)
  /-- So many further callers request a key and wait. -/
  | join (key : EndpointKey) (count : Nat)
  /-- The load ends without a result. -/
  | unwind

/-- The operations of a store that can be set to fail. -/
inductive StoreOperation where
  /-- Lookups of the cache. -/
  | lookup
  /-- Writes of batches. -/
  | save

/-- A session. -/
structure Session where
  /-- The system. -/
  system : System
  /-- How large batches may be. -/
  limits : Limits
  /-- How detection answers when models cannot be looked up. -/
  detection : DetectionSettings
  /-- The actions of the next load. -/
  armed : List LoadAction

/-- The state of a load that runs with actions. -/
structure LoadRun where
  /-- The system. -/
  system : System
  /-- The answers to requests that were served meanwhile, the last one first. -/
  during : List LookupAnswer
  /-- The further callers, the last one first, with their answers unless they wait for the load. -/
  joined : List (Option LookupAnswer)
  /-- Whether the load ended without a result. -/
  unwound : Bool

/-- The answer that a caller gets from the outcome of a load. -/
def LookupAnswer.ofOutcome : LoadOutcome → LookupAnswer
  | .ok model => .found model
  | .error error => .failed error

/-- The models of a batch under their keys, also several of one key. -/
def underKeys (models : List Model) : List (EndpointKey × Model) :=
  models.map fun model => (model.key, model)

/-- A further caller requests a key while a load is running. A caller that can neither be answered
at once nor join a load makes one of its own. -/
def LoadRun.join (run : LoadRun) (key : EndpointKey) : LoadRun :=
  match run.system.access key with
  | (.hit model, system) => { run with system, joined := some (.found model) :: run.joined }
  | (.joins _, system) => { run with system, joined := none :: run.joined }
  | (.leads flight, system) =>
    let (outcome, system) := system.load key
    { run with
      system := system.finish key flight outcome
      joined := some (.ofOutcome outcome) :: run.joined }

/-- One action while a load is running. Nothing happens behind the end of a load. -/
def LoadRun.act (run : LoadRun) (action : LoadAction) : LoadRun :=
  if run.unwound then run
  else
    match action with
    | .evict key => { run with system := run.system.evict key }
    | .advance milliseconds => { run with system := run.system.advance milliseconds }
    | .save models =>
      { run with system.store := run.system.store.putAll (underKeys models) }
    | .get key =>
      let (outcome, system) := run.system.get key
      { run with system, during := .ofOutcome outcome :: run.during }
    | .join key count => (List.replicate count key).foldl LoadRun.join run
    | .unwind => { run with unwound := true }

/-- What an operation showed besides its answer. -/
structure Aside where
  /-- The answers to requests that were served during a load. -/
  during : List LookupAnswer := []
  /-- The answers to callers that came during a load. -/
  joined : List LookupAnswer := []

namespace Session

/-- A session with an empty system. -/
def new (cache : CacheSettings) (limits : Limits) (detection : DetectionSettings) : Session where
  system := .new cache
  limits
  detection
  armed := []

/-- A request for a key. If it leads a load, the armed actions happen between the lookup in the
store and the end of the flight. -/
def get (session : Session) (key : EndpointKey) : LookupAnswer × Aside × Session :=
  match session.system.access key with
  | (.hit model, system) => (.found model, {}, { session with system })
  | (.joins _, system) => (.failed (.loadAbandoned key.text), {}, { session with system })
  | (.leads flight, system) =>
    let (result, system) := system.load key
    let run := session.armed.foldl LoadRun.act ⟨system, [], [], false⟩
    let outcome := if run.unwound then .error (.loadAbandoned key.text) else result
    let aside : Aside :=
      ⟨run.during.reverse, run.joined.reverse.map fun answer? => answer?.getD (.ofOutcome outcome)⟩
    (if run.unwound then .unwound else .ofOutcome outcome, aside,
      { session with system := run.system.finish key flight outcome, armed := [] })

/-- The anomalies of a request, none when the load of its model ended without a result. -/
def detect (session : Session) (request : Request) :
    Option (Except DetectionError (List Anomaly)) × Aside × Session :=
  let report := reportRequest request
  if report.valid then
    match session.get request.key with
    | (.found model, aside, session) =>
      (some (judge session.detection request (.ok model)), aside, session)
    | (.failed error, aside, session) =>
      (some (judge session.detection request (.error error)), aside, session)
    | (.unwound, aside, session) => (none, aside, session)
  else
    (some (.error (.invalidRequest report)), {}, session)

/-- A batch of models is taken in. -/
def ingest (session : Session) (models : List Model) :
    Except IngestionError IngestionSummary × Session :=
  let (answer, system) := session.system.ingest session.limits models
  (answer, { session with system })

/-- Models are written to the store, also several of one key. -/
def save (session : Session) (models : List Model) : Except StoreError Unit × Session :=
  let (answer, system) := session.system.save (underKeys models)
  (answer, { session with system })

/-- A key is looked up in the store itself. -/
def find (session : Session) (key : EndpointKey) : CachedModel :=
  session.system.store.find? key

/-- A key is dropped. -/
def evict (session : Session) (key : EndpointKey) : Session :=
  { session with system := session.system.evict key }

/-- Some milliseconds pass. -/
def advance (session : Session) (milliseconds : Nat) : Session :=
  { session with system := session.system.advance milliseconds }

/-- The next operations of a kind are set to fail, instead of those that were set before. -/
def setFault (session : Session) (operation : StoreOperation) (fault : Fault) : Session :=
  match operation with
  | .lookup => { session with system.lookupFault := fault }
  | .save => { session with system.saveFault := fault }

/-- The next load is armed with actions, instead of those that were armed before. -/
def arm (session : Session) (actions : List LoadAction) : Session :=
  { session with armed := actions }

end Session

end ApiDrift
