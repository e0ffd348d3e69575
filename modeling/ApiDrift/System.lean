import ApiDrift.Cache

/-!
# The system

The system is a store, the cache in front of it, and a clock. The store may be set to fail for a
number of operations. Requests are served one after another here: a request that leads a flight
looks the key up in the store and ends the flight before anything else happens.
-/

namespace ApiDrift

/-- The failure of so many operations to come. -/
structure Fault where
  /-- How many operations fail. -/
  remaining : Nat
  /-- How they fail. -/
  error : StoreError
  deriving DecidableEq

/-- No failure to come. -/
def Fault.none : Fault := ⟨0, .other ""⟩

/-- How the next operation fails, if it does, and the failures to come behind it. -/
def Fault.next (fault : Fault) : Option StoreError × Fault :=
  match fault.remaining with
  | 0 => (.none, fault)
  | remaining + 1 => (some fault.error, { fault with remaining })

/-- The state of the system. -/
structure System where
  /-- The learned models. -/
  store : Store
  /-- What was looked up lately. -/
  cache : Cache
  /-- The time in milliseconds. -/
  now : Nat
  /-- How lookups in the store fail. -/
  lookupFault : Fault
  /-- How writes to the store fail. -/
  saveFault : Fault
  /-- How many lookups in the store the cache has made. -/
  lookups : Nat

namespace System

/-- The system without models. -/
def new (settings : CacheSettings) : System where
  store := .empty
  cache := .ofSettings settings
  now := 0
  lookupFault := .none
  saveFault := .none
  lookups := 0

/-- A lookup of a key in the store by the leader of a flight. -/
def load (system : System) (key : EndpointKey) : LoadOutcome × System :=
  let (error?, fault) := system.lookupFault.next
  let outcome : LoadOutcome := match error? with
    | some error => .error error
    | none => .ok (system.store.find? key)
  (outcome,
    { system with
      cache := system.cache.countLoad
      lookupFault := fault
      lookups := system.lookups + 1 })

/-- A write of a batch to the store, which happens as a whole or not at all. -/
def save (system : System) (batch : List (EndpointKey × Model)) :
    Except StoreError Unit × System :=
  match system.saveFault.next with
  | (some error, fault) => (.error error, { system with saveFault := fault })
  | (none, fault) =>
    (.ok (), { system with store := system.store.putAll batch, saveFault := fault })

/-- A request to drop a key. -/
def evict (system : System) (key : EndpointKey) : System :=
  { system with cache := system.cache.evict key }

/-- The system after some milliseconds. -/
def advance (system : System) (milliseconds : Nat) : System :=
  { system with now := system.now + milliseconds }

/-- The end of a flight. -/
def finish (system : System) (key : EndpointKey) (flight : FlightId) (outcome : LoadOutcome) :
    System :=
  { system with cache := system.cache.finish system.now key flight outcome }

/-- The part of a request before its load. -/
def access (system : System) (key : EndpointKey) : Boarding × System :=
  let (boarding, cache) := system.cache.access system.now key
  (boarding, { system with cache })

/-- A request for a key. Nobody else is loading it while requests are served one after another, so
a request that would have to wait for another one is abandoned. -/
def get (system : System) (key : EndpointKey) : LoadOutcome × System :=
  match system.access key with
  | (.hit model, system) => (.ok model, system)
  | (.joins _, system) => (.error (.loadAbandoned key.text), system)
  | (.leads flight, system) =>
    let (outcome, system) := system.load key
    (outcome, system.finish key flight outcome)

end System

end ApiDrift
