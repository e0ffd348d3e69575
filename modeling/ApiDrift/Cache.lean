import ApiDrift.Cache.Stats
import ApiDrift.Settings
import ApiDrift.Store

/-!
# The cache of looked-up models

The cache keeps what was last looked up in the store, also that a key has no model. An entry stays
fresh for a fixed time after its last use, and when the cache is full the entry that was used least
recently makes room. Requests that miss a key while it is being loaded join that load, which is
registered as the flight of the key. Dropping a key detaches its flight: the load goes on, but its
result is not kept.

Each operation here is one atomic step. A request for a key is a first lookup, then a second
lookup that joins or registers a flight, and for the leader of a flight the lookup in the store and
the end of the flight.
-/

namespace ApiDrift

/-- What a key was looked up as: a model, or that there is none. -/
abbrev CachedModel := Option Model

/-- The outcome of a load. -/
abbrev LoadOutcome := Except StoreError CachedModel

/-- The name of a flight. Every flight has a name of its own. -/
abbrev FlightId := Nat

/-- What the cache keeps for a key. -/
structure CacheEntry where
  /-- The key. -/
  key : EndpointKey
  /-- What it was looked up as. -/
  model : CachedModel
  /-- When it was last used. -/
  lastAccess : Nat
  deriving DecidableEq

/-- The state of a cache. -/
structure Cache where
  /-- The most entries. -/
  capacity : Nat
  /-- For how long an entry stays fresh. -/
  ttl : Nat
  /-- The entries, the most recently used one first. -/
  entries : List CacheEntry
  /-- The flights that further requests for their keys join. -/
  registered : List (EndpointKey × FlightId)
  /-- The running flights whose results are not kept. -/
  detached : List FlightId
  /-- The name of the next flight. -/
  nextFlight : FlightId
  /-- What was counted so far. -/
  counters : Counters

/-- The part of a request under the lock: a late hit, or a flight that the request joins or
leads. -/
inductive Boarding where
  /-- The key was loaded since the first lookup. -/
  | hit (model : CachedModel)
  /-- Another request is loading the key. -/
  | joins (flight : FlightId)
  /-- This request loads the key. -/
  | leads (flight : FlightId)

namespace Cache

/-- An empty cache, which has room for at least one entry. -/
def new (maxEntries ttl : Nat) : Cache where
  capacity := max 1 maxEntries
  ttl := ttl
  entries := []
  registered := []
  detached := []
  nextFlight := 0
  counters := {}

/-- The empty cache of the given settings. -/
def ofSettings (settings : CacheSettings) : Cache :=
  new settings.maxEntries.toNat settings.ttl.toNat

/-- The report of a cache on itself. -/
def stats (cache : Cache) : CacheStats :=
  cache.counters.toStats cache.entries.length

/-- The entry of a key. -/
def entry? (cache : Cache) (key : EndpointKey) : Option CacheEntry :=
  cache.entries.find? fun entry => entry.key == key

/-- The flight that is registered for a key. -/
def flight? (cache : Cache) (key : EndpointKey) : Option FlightId :=
  cache.registered.lookup key

/-- Whether an entry is fresh at a time. -/
def isFresh (cache : Cache) (now : Nat) (entry : CacheEntry) : Bool :=
  now - entry.lastAccess < cache.ttl

/-- Entries without that of a key. -/
def without (key : EndpointKey) (entries : List CacheEntry) : List CacheEntry :=
  entries.filter fun entry => entry.key != key

/-- A lookup of a key. A fresh entry becomes the most recently used one, and an expired one is
removed. -/
def lookup (cache : Cache) (now : Nat) (key : EndpointKey) : Option CachedModel × Cache :=
  match cache.entry? key with
  | none => (none, cache)
  | some entry =>
    let others := without key cache.entries
    if cache.isFresh now entry then
      (some entry.model, { cache with entries := { entry with lastAccess := now } :: others })
    else
      (none,
        { cache with
          entries := others
          counters.expirations := cache.counters.expirations + 1 })

/-- The first lookup of a request, which counts a hit. -/
def firstLookup (cache : Cache) (now : Nat) (key : EndpointKey) : Option CachedModel × Cache :=
  match cache.lookup now key with
  | (some model, cache) => (some model, { cache with counters.hits := cache.counters.hits + 1 })
  | (none, cache) => (none, cache)

/-- The part of a request under the lock: a second lookup, which counts a hit or a miss, and for a
miss the flight to join or to lead. -/
def board (cache : Cache) (now : Nat) (key : EndpointKey) : Boarding × Cache :=
  match cache.lookup now key with
  | (some model, cache) => (.hit model, { cache with counters.hits := cache.counters.hits + 1 })
  | (none, cache) =>
    let cache := { cache with counters.misses := cache.counters.misses + 1 }
    match cache.flight? key with
    | some flight => (.joins flight, cache)
    | none =>
      (.leads cache.nextFlight,
        { cache with
          registered := (key, cache.nextFlight) :: cache.registered
          nextFlight := cache.nextFlight + 1 })

/-- The start of the store lookup of a leader. -/
def countLoad (cache : Cache) : Cache :=
  { cache with counters.loads := cache.counters.loads + 1 }

/-- The entries without the expired ones at the end of the order of use. -/
def sweep (cache : Cache) (now : Nat) : Cache :=
  let kept := (cache.entries.reverse.dropWhile fun entry => !cache.isFresh now entry).reverse
  { cache with
    entries := kept
    counters.expirations :=
      cache.counters.expirations + (cache.entries.length - kept.length) }

/-- The cache with a new most recently used entry. When there is no room, the least recently used
one is evicted. -/
def push (cache : Cache) (entry : CacheEntry) : Cache :=
  if (cache.entry? entry.key).isSome then
    { cache with entries := entry :: without entry.key cache.entries }
  else if cache.capacity ≤ cache.entries.length then
    { cache with
      entries := entry :: cache.entries.dropLast
      counters.evictions := cache.counters.evictions + 1 }
  else
    { cache with entries := entry :: cache.entries }

/-- The cache with the result of a load. -/
def insert (cache : Cache) (now : Nat) (key : EndpointKey) (model : CachedModel) : Cache :=
  (cache.sweep now).push ⟨key, model, now⟩

/-- The cache without the registration of a flight, if it is the one registered for its key. -/
def unregister (cache : Cache) (key : EndpointKey) (flight : FlightId) : Cache :=
  if cache.flight? key = some flight then
    { cache with registered := cache.registered.filter fun entry => entry.1 != key }
  else
    cache

/-- The end of a flight. The result of a flight that was not detached is kept. -/
def finish (cache : Cache) (now : Nat) (key : EndpointKey) (flight : FlightId)
    (outcome : LoadOutcome) : Cache :=
  let kept :=
    match outcome with
    | .ok model => if cache.detached.contains flight then cache else cache.insert now key model
    | .error _ =>
      { cache with counters.loadFailures := cache.counters.loadFailures + 1 }
  let kept := kept.unregister key flight
  { kept with detached := kept.detached.erase flight }

/-- The cache without the entry of a key, and with its flight detached. -/
def evict (cache : Cache) (key : EndpointKey) : Cache :=
  { cache with
    entries := without key cache.entries
    registered := cache.registered.filter fun entry => entry.1 != key
    detached := (cache.flight? key).toList ++ cache.detached
    counters.invalidations := cache.counters.invalidations + 1 }

/-- How a request goes on that looked a key up for the first time. -/
def access (cache : Cache) (now : Nat) (key : EndpointKey) : Boarding × Cache :=
  match cache.firstLookup now key with
  | (some model, cache) => (.hit model, cache)
  | (none, cache) => cache.board now key

end Cache

end ApiDrift
