import ApiDrift.Anomaly
import ApiDrift.Json.Record

/-!
# Anomalies in JSON
-/

namespace ApiDrift.Wire

open Json

/-- A type of anomalies is read from its text. -/
def anomalyType : Decoder AnomalyType := fun source tree => do
  let text ← Decoder.string source tree
  match AnomalyType.ofText? text with
  | some type => return type
  | none => .error (.mismatch (.unknownAnomalyType text))

/-- An anomaly is read from its fields. -/
def anomaly : Decoder Anomaly :=
  .record "Anomaly"
    (.cons (.required "type" anomalyType) (.cons (.required "description" .string) .done))
    fun (type, description, ()) => { type, description }

/-- The JSON value of a type of anomalies. -/
def ofAnomalyType (type : AnomalyType) : Value :=
  .string type.text

/-- The JSON value of an anomaly. -/
def ofAnomaly (anomaly : Anomaly) : Value :=
  .object
    [("type", ofAnomalyType anomaly.type), ("description", .string anomaly.description)]

/-- The JSON value of a list of anomalies. -/
def ofAnomalies (anomalies : List Anomaly) : Value :=
  .array (anomalies.map ofAnomaly)

end ApiDrift.Wire
