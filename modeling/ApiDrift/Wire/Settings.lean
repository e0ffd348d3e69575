import ApiDrift.Json.Record
import ApiDrift.Settings

/-!
# Settings in JSON

All fields of the settings have to be there.
-/

namespace ApiDrift.Wire

open Json

/-- The settings of the server are read from their fields. -/
def serverSettings : Decoder ServerSettings :=
  .record "ServerConfig"
    (.cons (.required "host" .string)
      (.cons (.required "port" .word16) (.cons (.required "cors_origin" .string) .done)))
    fun (host, port, corsOrigin, ()) => { host, port, corsOrigin }

/-- The limits are read from their fields. -/
def limits : Decoder Limits :=
  .record "IngestConfig"
    (.cons (.required "max_models_per_request" .size)
      (.cons (.required "max_params" .size)
        (.cons (.required "max_param_types" .size)
          (.cons (.required "max_string_length" .size) .done))))
    fun (maxModels, maxParameters, maxTypes, maxLength, ()) =>
      { maxModels, maxParameters, maxTypes, maxLength }

/-- The settings of the cache are read from their fields. -/
def cacheSettings : Decoder CacheSettings :=
  .record "CacheConfig"
    (.cons (.required "max_entries" .size) (.cons (.required "ttl_ms" .word64) .done))
    fun (maxEntries, ttl, ()) => { maxEntries, ttl }

/-- The settings of detection are read from their fields. -/
def detectionSettings : Decoder DetectionSettings :=
  .record "DetectionConfig"
    (.cons (.required "fail_open" .boolean) .done)
    fun (failOpen, ()) => { failOpen }

/-- All settings are read from their fields. -/
def settings : Decoder Settings :=
  .record "Config"
    (.cons (.required "profile" .string)
      (.cons (.required "server" serverSettings)
        (.cons (.required "ingest" limits)
          (.cons (.required "cache" cacheSettings)
            (.cons (.required "detection" detectionSettings) .done)))))
    fun (profile, server, limits, cache, detection, ()) =>
      { profile, server, limits, cache, detection }

/-- The JSON value of the settings of the server. -/
def ofServerSettings (settings : ServerSettings) : Value :=
  .object
    [("host", .string settings.host), ("port", .natural settings.port.toNat),
      ("cors_origin", .string settings.corsOrigin)]

/-- The JSON value of limits. -/
def ofLimits (limits : Limits) : Value :=
  .object
    [("max_models_per_request", .natural limits.maxModels.toNat),
      ("max_params", .natural limits.maxParameters.toNat),
      ("max_param_types", .natural limits.maxTypes.toNat),
      ("max_string_length", .natural limits.maxLength.toNat)]

/-- The JSON value of the settings of the cache. -/
def ofCacheSettings (settings : CacheSettings) : Value :=
  .object
    [("max_entries", .natural settings.maxEntries.toNat),
      ("ttl_ms", .natural settings.ttl.toNat)]

/-- The JSON value of the settings of detection. -/
def ofDetectionSettings (settings : DetectionSettings) : Value :=
  .object [("fail_open", .boolean settings.failOpen)]

/-- The JSON value of all settings. -/
def ofSettings (settings : Settings) : Value :=
  .object
    [("profile", .string settings.profile), ("server", ofServerSettings settings.server),
      ("ingest", ofLimits settings.limits), ("cache", ofCacheSettings settings.cache),
      ("detection", ofDetectionSettings settings.detection)]

/-- What a decoder reads from a JSON object in which the fields of a second one replace those of
the same name. A second value that is no object replaces nothing. -/
def overriding {α : Type} (decoder : Decoder α) (base overrides : Value) : Decoded α :=
  match base, overrides with
  | .object fields, .object changes =>
    decoder.ofValue (.object (Dictionary.ofList (fields ++ changes)).entries)
  | base, _ => decoder.ofValue base

end ApiDrift.Wire
