import ApiDrift.Health
import ApiDrift.Json.Record

/-!
# Health and counters in JSON

All fields have to be there.
-/

namespace ApiDrift.Wire

open Json

/-- The counters of a cache are read from their fields. -/
def cacheStats : Decoder CacheStats :=
  .record "CacheStats"
    (.cons (.required "entries" .size)
      (.cons (.required "hits" .word64)
        (.cons (.required "misses" .word64)
          (.cons (.required "loads" .word64)
            (.cons (.required "load_failures" .word64)
              (.cons (.required "evictions" .word64)
                (.cons (.required "expirations" .word64)
                  (.cons (.required "invalidations" .word64) .done))))))))
    fun (entries, hits, misses, loads, loadFailures, evictions, expirations, invalidations, ()) =>
      { entries, hits, misses, loads, loadFailures, evictions, expirations, invalidations }

/-- The health of a service is read from its fields. -/
def health : Decoder Health :=
  .record "HealthResponse"
    (.cons (.required "status" .string)
      (.cons (.required "version" .string)
        (.cons (.required "models" .size) (.cons (.required "cache" cacheStats) .done))))
    fun (status, version, models, cache, ()) => { status, version, models, cache }

/-- The JSON value of the counters of a cache. -/
def ofCacheStats (stats : CacheStats) : Value :=
  .object
    [("entries", .natural stats.entries.toNat), ("hits", .natural stats.hits.toNat),
      ("misses", .natural stats.misses.toNat), ("loads", .natural stats.loads.toNat),
      ("load_failures", .natural stats.loadFailures.toNat),
      ("evictions", .natural stats.evictions.toNat),
      ("expirations", .natural stats.expirations.toNat),
      ("invalidations", .natural stats.invalidations.toNat)]

/-- The JSON value of the health of a service. -/
def ofHealth (health : Health) : Value :=
  .object
    [("status", .string health.status), ("version", .string health.version),
      ("models", .natural health.models.toNat), ("cache", ofCacheStats health.cache)]

end ApiDrift.Wire
