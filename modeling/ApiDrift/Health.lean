import ApiDrift.Cache.Stats

/-!
# The health of the service
-/

namespace ApiDrift

/-- What the service reports about itself. -/
structure Health where
  /-- Whether it serves. -/
  status : String
  /-- Its version. -/
  version : String
  /-- How many models it has. -/
  models : UInt64
  /-- The counters of its cache. -/
  cache : CacheStats
  deriving DecidableEq

/-- The version of the service. -/
def serviceVersion : String := "0.1.0"

end ApiDrift
