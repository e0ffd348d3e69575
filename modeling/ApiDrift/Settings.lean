import ApiDrift.Text.Terminal

/-!
# Settings

The settings of the service: where it listens, how large the models may be that it takes in, how
much it keeps at hand, and what it answers when models cannot be looked up.
-/

namespace ApiDrift

/-- Where the service listens and whose pages may call it. -/
structure ServerSettings where
  /-- The address. -/
  host : String := "0.0.0.0"
  /-- The port. -/
  port : UInt16 := 8080
  /-- The origin whose pages may call the service, or `*` for any. -/
  corsOrigin : String := "*"
  deriving DecidableEq

/-- How large batches of models and their parts may be. -/
structure Limits where
  /-- The most models of a batch. -/
  maxModels : UInt64 := 1000
  /-- The most parameters of a section. -/
  maxParameters : UInt64 := 50
  /-- The most types of a parameter. -/
  maxTypes : UInt64 := 8
  /-- The most characters of a path or of the name of a parameter. -/
  maxLength : UInt64 := 255
  deriving DecidableEq

/-- How much is kept at hand and for how long. -/
structure CacheSettings where
  /-- The most entries. -/
  maxEntries : UInt64 := 10000
  /-- For how many milliseconds an entry stays after its last use. -/
  ttl : UInt64 := 600000
  deriving DecidableEq

/-- What is answered when models cannot be looked up. -/
structure DetectionSettings where
  /-- Whether a request then counts as one without anomalies. -/
  failOpen : Bool := true
  deriving DecidableEq

/-- All settings. -/
structure Settings where
  /-- The name of the profile, empty for the default one. -/
  profile : String := ""
  /-- Where the service listens. -/
  server : ServerSettings := {}
  /-- How large models may be. -/
  limits : Limits := {}
  /-- How much is kept at hand. -/
  cache : CacheSettings := {}
  /-- What is answered when models cannot be looked up. -/
  detection : DetectionSettings := {}
  deriving DecidableEq

/-- The time that an entry stays in whole seconds and the milliseconds beyond them. -/
def CacheSettings.ttlParts (settings : CacheSettings) : Nat × Nat :=
  (settings.ttl.toNat / 1000, settings.ttl.toNat % 1000)

/-- The name of a profile in messages. -/
def Settings.label (settings : Settings) : String :=
  if settings.profile.isEmpty then "default" else settings.profile

/-- The lines that describe the settings, as they are meant. -/
def Settings.description (settings : Settings) : List String :=
  [ "Config loaded (profile: " ++ settings.label ++ "):",
    "  server:    " ++ settings.server.host ++ ":" ++ toString settings.server.port.toNat,
    "  ingest:    max_models=" ++ toString settings.limits.maxModels.toNat ++
      ", max_params=" ++ toString settings.limits.maxParameters.toNat ++
      ", max_types=" ++ toString settings.limits.maxTypes.toNat ++
      ", max_len=" ++ toString settings.limits.maxLength.toNat,
    "  cache:     max_entries=" ++ toString settings.cache.maxEntries.toNat ++
      ", ttl_ms=" ++ toString settings.cache.ttl.toNat,
    "  detection: fail_open=" ++ toString settings.detection.failOpen ]

/-- The lines that the service writes about its settings at its start, for a terminal. -/
def Settings.summary (settings : Settings) : List String :=
  settings.description.map Text.forTerminal

end ApiDrift
