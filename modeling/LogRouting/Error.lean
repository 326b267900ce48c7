import LogRouting.Text
/-!
Owners of publishing endpoints, what can go wrong, the text each failure is reported with, and the
few status codes that callers tell failures apart by.
-/
namespace LogRouting

/-- An opaque token. Registries keep it instead of the owner itself. -/
structure OwnerId where
  raw : UInt64
  deriving DecidableEq, Repr, Inhabited

def OwnerId.text (id : OwnerId) : String :=
  "owner#" ++ String.ofList (Text.numeral id.raw.toNat)

/-- Whoever an endpoint is created for. An owner may fail to name its logger. -/
structure Owner where
  id : OwnerId
  loggerName : Option String
  deriving DecidableEq, Repr

/-- The name an endpoint can be filed under: an empty one is none. -/
def Owner.usableName (o : Owner) : Option String :=
  o.loggerName.filter (· ≠ "")

structure Node where
  id : OwnerId
  space : String
  name : String
  deriving DecidableEq, Repr

namespace Node

def innerSpace (n : Node) : List Char :=
  ((n.space.toList.dropWhile (· = '/')).reverse.dropWhile (· = '/')).reverse

/-- Dots join the steps of the namespace and the name: `nav` in `/robot/base` logs as
`robot.base.nav`. A node without a name has no logger. -/
def loggerName (n : Node) : Option String :=
  if n.name = "" then none
  else if n.innerSpace = [] then some n.name
  else some (String.ofList (n.innerSpace.map fun c => if c = '/' then '.' else c) ++ "." ++ n.name)

def owner (n : Node) : Owner where
  id := n.id
  loggerName := n.loggerName

end Node

inductive Status where
  | ok
  | alreadyInit
  | notInit
  | invalidArgument
  | badAlloc
  | error
  deriving DecidableEq, Repr, Inhabited

namespace Status

def isOk (s : Status) : Bool :=
  s = ok

def text : Status → String
  | ok => "OK"
  | alreadyInit => "ALREADY_INIT"
  | notInit => "NOT_INIT"
  | invalidArgument => "INVALID_ARGUMENT"
  | badAlloc => "BAD_ALLOC"
  | error => "ERROR"

end Status

inductive TransportError where
  | create (topic reason : String)
  | destroy (reason : String)
  | publish (reason : String)
  | serialization (reason : String)
  | io (reason : String)
  deriving DecidableEq, Repr

def TransportError.message : TransportError → String
  | create topic reason => "Failed to create endpoint on topic '" ++ topic ++ "': " ++ reason
  | destroy reason => "Failed to destroy endpoint: " ++ reason
  | publish reason => "Publish failed: " ++ reason
  | serialization reason => "Serialization error: " ++ reason
  | io reason => "IO error: " ++ reason

inductive BackendError where
  | start (reason : String)
  | level (reason : String)
  | shutdown (reason : String)
  deriving DecidableEq, Repr

def BackendError.message : BackendError → String
  | start reason => "Failed to initialize external backend: " ++ reason
  | level reason => "Failed to set logger level: " ++ reason
  | shutdown reason => "Failed to shut down external backend: " ++ reason

inductive LogError where
  | alreadyInit (logger : String)
  | notInit (logger : String)
  | invalidArgument (reason : String)
  | badAlloc (reason : String)
  | unresolvedOwner (id : OwnerId)
  | registryBusy
  | chainFull (capacity : Nat)
  | config (reason : String)
  | transport (cause : TransportError)
  | backend (cause : BackendError)
  deriving DecidableEq, Repr

namespace LogError

def message : LogError → String
  | alreadyInit logger => "Logger '" ++ logger ++ "' already has a publishing endpoint"
  | notInit logger => "Logger '" ++ logger ++ "' has no publishing endpoint"
  | invalidArgument reason => "Invalid argument: " ++ reason
  | badAlloc reason => "Allocation failed: " ++ reason
  | unresolvedOwner id => "Could not resolve a logger name for " ++ id.text
  | registryBusy => "Registry is already borrowed"
  | chainFull capacity =>
    "Dispatch chain is full (" ++ String.ofList (Text.numeral capacity) ++ " sinks)"
  | config reason => "Configuration error: " ++ reason
  | transport cause => "Transport error: " ++ cause.message
  | backend cause => "External backend error: " ++ cause.message

def status : LogError → Status
  | alreadyInit _ => .alreadyInit
  | notInit _ => .notInit
  | invalidArgument _ | chainFull _ | config _ => .invalidArgument
  | badAlloc _ => .badAlloc
  | unresolvedOwner _ | registryBusy | transport _ | backend _ => .error

def unknownLevel (n : Int32) : LogError :=
  .invalidArgument ("unknown severity level " ++ String.ofList (Text.signedNumeral n.toInt))

def unknownWord (w : String) : LogError :=
  .invalidArgument ("unknown severity '" ++ w ++ "'")

end LogError

def Status.ofResult {α : Type} : Except LogError α → Status
  | .ok _ => ok
  | .error e => e.status

end LogRouting
