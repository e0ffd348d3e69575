import ApiDrift.Json.Record
import ApiDrift.Model

/-!
# Learned models in JSON

Every field of a parameter and of a model may be missing or `null`, which means an empty text, an
empty list or false.
-/

namespace ApiDrift.Wire

open Json

/-- A parameter is read from its fields. -/
def parameter : Decoder Parameter :=
  .record "ParamSpec"
    (.cons (.defaulted "name" "" .string)
      (.cons (.defaulted "types" [] (.list .string))
        (.cons (.defaulted "required" false .boolean) .done)))
    fun (name, types, required, ()) => { name, types, required }

/-- A list of parameters, which may be missing. -/
def parametersField (name : String) : RecordField (List Parameter) :=
  .defaulted name [] (.list parameter)

/-- A model is read from its fields. -/
def model : Decoder Model :=
  .record "LearnedModel"
    (.cons (.defaulted "path" "" .string)
      (.cons (.defaulted "method" "" .string)
        (.cons (parametersField "query_params")
          (.cons (parametersField "headers")
            (.cons (parametersField "body") .done)))))
    fun (path, method, queryParams, headers, body, ()) =>
      { path, method, queryParams, headers, body }

/-- A batch of models. -/
def models : Decoder (List Model) :=
  .list model

/-- The JSON value of a parameter. -/
def ofParameter (parameter : Parameter) : Value :=
  .object
    [("name", .string parameter.name), ("types", .strings parameter.types),
      ("required", .boolean parameter.required)]

/-- The JSON value of a list of parameters. -/
def ofParameters (parameters : List Parameter) : Value :=
  .array (parameters.map ofParameter)

/-- The JSON value of a model. -/
def ofModel (model : Model) : Value :=
  .object
    [("path", .string model.path), ("method", .string model.method),
      ("query_params", ofParameters model.queryParams), ("headers", ofParameters model.headers),
      ("body", ofParameters model.body)]

/-- The JSON value of a batch. -/
def ofModels (models : List Model) : Value :=
  .array (models.map ofModel)

/-- The JSON value of the key of an endpoint. -/
def ofKey (key : EndpointKey) : Value :=
  .string key.text

/-- A key is read from its text as it is. -/
def key : Decoder EndpointKey := fun source tree =>
  (Decoder.string source tree).map EndpointKey.mk

end ApiDrift.Wire
