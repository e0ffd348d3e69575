import ApiDrift.Detection.Deviation
import ApiDrift.Report.RequestRules
import ApiDrift.System

/-!
# Detection

The model of a request is looked up by its key. A request to an endpoint without a model has that
one anomaly; when the lookup fails, the settings decide between no anomalies and a failure.
-/

namespace ApiDrift

/-- Why there is no list of anomalies for a request. -/
inductive DetectionError where
  /-- The request has no method or no path. -/
  | invalidRequest (report : Report)
  /-- The model could not be looked up. -/
  | unavailable (error : StoreError)

/-- The message of a failure. -/
def DetectionError.message : DetectionError → String
  | .invalidRequest report => report.summary
  | .unavailable error => "schema lookup unavailable: " ++ error.message

/-- The anomalies of a request whose model was looked up. -/
def judge (settings : DetectionSettings) (request : Request) (outcome : LoadOutcome) :
    Except DetectionError (List Anomaly) :=
  match outcome with
  | .ok (some model) => .ok (Detection.deviations request model)
  | .ok none => .ok [.unknownEndpoint]
  | .error error => if settings.failOpen then .ok [] else .error (.unavailable error)

/-- The anomalies of a request, and the system after it. -/
def System.detect (settings : DetectionSettings) (system : System) (request : Request) :
    Except DetectionError (List Anomaly) × System :=
  let report := reportRequest request
  if report.valid then
    let (outcome, system) := system.get request.key
    (judge settings request outcome, system)
  else
    (.error (.invalidRequest report), system)

end ApiDrift
