/-!
# Counters of the cache
-/

namespace ApiDrift

/-- What a cache reports about itself. -/
structure CacheStats where
  /-- Entries now. -/
  entries : UInt64
  /-- Requests that found a fresh entry. -/
  hits : UInt64
  /-- Requests that did not. -/
  misses : UInt64
  /-- Lookups in the store. -/
  loads : UInt64
  /-- Loads that ended without a result. -/
  loadFailures : UInt64
  /-- Entries that made room for others. -/
  evictions : UInt64
  /-- Entries that were too old. -/
  expirations : UInt64
  /-- Requests to drop a key. -/
  invalidations : UInt64
  deriving DecidableEq

/-- What a cache counts. -/
structure Counters where
  /-- Requests that found a fresh entry. -/
  hits : Nat := 0
  /-- Requests that did not. -/
  misses : Nat := 0
  /-- Lookups in the store. -/
  loads : Nat := 0
  /-- Loads that ended without a result. -/
  loadFailures : Nat := 0
  /-- Entries that made room for others. -/
  evictions : Nat := 0
  /-- Entries that were too old. -/
  expirations : Nat := 0
  /-- Requests to drop a key. -/
  invalidations : Nat := 0
  deriving DecidableEq

/-- The report on counters and a number of entries. -/
def Counters.toStats (counters : Counters) (entries : Nat) : CacheStats where
  entries := .ofNat entries
  hits := .ofNat counters.hits
  misses := .ofNat counters.misses
  loads := .ofNat counters.loads
  loadFailures := .ofNat counters.loadFailures
  evictions := .ofNat counters.evictions
  expirations := .ofNat counters.expirations
  invalidations := .ofNat counters.invalidations

end ApiDrift
