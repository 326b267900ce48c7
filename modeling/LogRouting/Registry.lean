import LogRouting.Config
import LogRouting.Transport
/-!
The registry maps a logger name to the one endpoint that was created for its owner. An endpoint that
cannot be entered is to be destroyed again, and an entry goes only after its endpoint did. While the
registry is down, entering and leaving do nothing and succeed. A registry can be shared, and guards
keep an owner registered for as long as they are held.
-/
namespace LogRouting

inductive Lease where
  | free
  | reading
  | writing
  deriving DecidableEq, Repr, Inhabited

def Lease.mayWrite : Lease → Bool
  | .free => true
  | _ => false

def Lease.mayRead : Lease → Bool
  | .writing => false
  | _ => true

structure Shared (α : Type) where
  value : α
  lease : Lease := .free
  deriving DecidableEq, Repr, Inhabited

structure Entry where
  name : String
  owner : OwnerId
  endpoint : Endpoint
  deriving DecidableEq, Repr

/-- An entry and the key that it is filed under. -/
structure Row extends Entry where
  key : String
  deriving DecidableEq, Repr

/-- What the allocator grants when it is asked: a map with its first entries, and room in a map for
one more entry. -/
structure Memory where
  map : Bool := true
  entry : Bool := true
  deriving DecidableEq, Repr, Inhabited

/-- `loggers` is there exactly while the registry is up, in order of entry. -/
structure Registry where
  config : RegistryConfig
  loggers : Option (List Row) := none
  memory : Memory := {}
  deriving DecidableEq, Repr, Inhabited

namespace Registry

def allot (memory : Memory) (r : Registry) : Registry :=
  { r with memory }

def isUp (r : Registry) : Bool :=
  r.loggers.isSome

def rows (r : Registry) : List Row :=
  r.loggers.getD []

def get? (r : Registry) (name : String) : Option Row :=
  r.rows.find? (·.key = name)

def contains (r : Registry) (name : String) : Bool :=
  (r.get? name).isSome

def names (r : Registry) : List String :=
  r.rows.map (·.key)

def size (r : Registry) : Nat :=
  r.rows.length

/-- The most entries that a map can have room for, whatever the allocator grants. -/
def capacityBound : Nat := 7 * 0x20000000000000

def noRoom (purpose cause : String) : LogError :=
  .badAlloc ("Failed to " ++ purpose ++ " logger map: memory allocation failed because " ++ cause)

def tooLarge : String := "the computed capacity exceeded the collection's maximum"

def refused : String := "the memory allocator returned an error"

/-- Why there is no map with the initial capacity, if there is none. One without any entries needs
no memory. -/
def noMap? (r : Registry) : Option LogError :=
  if r.config.initialCapacity = 0 then none
  else if capacityBound < r.config.initialCapacity.toNat then some (noRoom "allocate" tooLarge)
  else if r.memory.map then none
  else some (noRoom "allocate" refused)

def init (r : Registry) : Except LogError Unit × Registry :=
  if r.isUp then (.ok (), r)
  else match r.noMap? with
    | some e => (.error e, r)
    | none => (.ok (), { r with loggers := some [] })

def nameless (id : OwnerId) : LogError :=
  .invalidArgument (id.text ++ " has no logger name")

def limitReached (max : UInt64) : LogError :=
  .badAlloc ("logger limit of " ++ String.ofList (Text.numeral max.toNat) ++ " reached")

def limit? (r : Registry) : Option UInt64 :=
  r.config.maxLoggers.filter (·.toNat ≤ r.size)

def shortage? (r : Registry) : Option LogError :=
  match r.limit? with
  | some max => some (limitReached max)
  | none => if r.memory.entry then none else some (noRoom "grow" refused)

variable {D : Type} [Transport D]

def register (r : Registry) (o : Owner) (d : D) : Except LogError Unit × Registry × D :=
  match r.loggers with
  | none => (.ok (), r, d)
  | some rows =>
    match o.usableName with
    | none => (.error (nameless o.id), r, d)
    | some name =>
      if r.contains name then (.error (.alreadyInit name), r, d)
      else match Transport.create o.id r.config.topic d with
        | (.error e, d) => (.error (.transport e), r, d)
        | (.ok endpoint, d) =>
          match r.shortage? with
          | some e => (.error e, r, (Transport.destroy o.id endpoint d).2)
          | none =>
            let entry : Entry := ⟨name, o.id, endpoint⟩
            (.ok (), { r with loggers := some (rows ++ [⟨entry, name⟩]) }, d)

def without (rows : List Row) (name : String) : List Row :=
  rows.filter (·.key ≠ name)

/-- Destroys the endpoint of an owner and removes the entry. An entry of another owner under the
same name is not the caller's. -/
def unregister (r : Registry) (o : Owner) (d : D) : Except LogError Unit × Registry × D :=
  match r.loggers with
  | none => (.ok (), r, d)
  | some rows =>
    match o.usableName with
    | none => (.error (.unresolvedOwner o.id), r, d)
    | some name =>
      match r.get? name with
      | none => (.error (.notInit name), r, d)
      | some row =>
        if row.owner ≠ o.id then (.error (.notInit name), r, d)
        else match Transport.destroy row.owner row.endpoint d with
          | (.error e, d) => (.error (.transport e), r, d)
          | (.ok (), d) => (.ok (), { r with loggers := some (without rows name) }, d)

def tearDown : (order : List String) → List Row → D → Except TransportError Unit × List Row × D
  | [], rows, d => (.ok (), rows, d)
  | name :: order, rows, d =>
    match rows.find? (·.key = name) with
    | none => tearDown order rows d
    | some row =>
      match Transport.destroy row.owner row.endpoint d with
      | (.error e, d) => (.error e, rows, d)
      | (.ok (), d) => tearDown order (without rows name) d

/-- Takes the registry down in a given order of its names. It stays up, with the entries that are
left, if an endpoint resists. -/
def finiIn (order : List String) (r : Registry) (d : D) : Except LogError Unit × Registry × D :=
  match r.loggers with
  | none => (.ok (), r, d)
  | some rows =>
    match tearDown order rows d with
    | (.error e, rows, d) => (.error (.transport e), { r with loggers := some rows }, d)
    | (.ok (), _, d) => (.ok (), { r with loggers := none }, d)

def fini (r : Registry) (d : D) : Except LogError Unit × Registry × D :=
  r.finiIn r.names d

def exclusively (op : Registry → D → Except LogError Unit × Registry × D) (s : Shared Registry)
    (d : D) : Except LogError Unit × Shared Registry × D :=
  if s.lease.mayWrite then
    let (result, r, d) := op s.value d
    (result, { s with value := r }, d)
  else (.error .registryBusy, s, d)

/-- Publishes the record of an event on the endpoint of its logger. Without an endpoint, or while
someone changes the registry, the event is dropped; so is the failure to publish. -/
def route (s : Shared Registry) (e : Event) (d : D) : D :=
  if s.lease.mayRead then
    match s.value.get? e.logger with
    | some row => (Transport.publish row.endpoint (.ofEvent e) d).2
    | none => d
  else d

end Registry

/-- Knows the endpoint it stands for by the owner and the logger name alone. -/
structure Guard where
  id : OwnerId
  name : String
  deriving DecidableEq, Repr

namespace Guard

def owner (g : Guard) : Owner where
  id := g.id
  loggerName := some g.name

variable {D : Type} [Transport D]

def acquire (o : Owner) (s : Shared Registry) (d : D) :
    Except LogError Guard × Shared Registry × D :=
  match Registry.exclusively (·.register o) s d with
  | (.ok (), s, d) => (.ok ⟨o.id, o.loggerName.getD ""⟩, s, d)
  | (.error e, s, d) => (.error e, s, d)

def release (g : Guard) (s : Shared Registry) (d : D) :
    Except LogError Unit × Shared Registry × D :=
  Registry.exclusively (·.unregister g.owner) s d

end Guard

end LogRouting
