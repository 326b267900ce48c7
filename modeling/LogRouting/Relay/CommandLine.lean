import LogRouting.Config
/-!
What a relay is started with. A configuration file comes first, and what is given on the command
line overrides it. The command line is read from left to right up to the first argument that is
wrong. A value that follows its option is only looked at when the next option is reached, so an
unknown argument in between is reported instead.
-/
namespace LogRouting.Relay

structure Settings where
  config : Option String := none
  level : Option String := none
  consoleOff : Bool := false
  registryOff : Bool := false
  externalOff : Bool := false
  backendConfig : Option String := none
  format : Option String := none
  output : String := "rosout.jsonl"
  space : String := "/"
  name : String := "relay"
  verbose : Bool := false
  printConfig : Bool := false
  deriving DecidableEq, Repr, Inhabited

/-- A number within 32 bits is a raw level; any other text has to be a severity. -/
def parseLevel (s : String) : Except LogError (Option Severity) :=
  match Text.integer? (Text.trim s.toList) with
  | some n =>
    if -2147483648 ≤ n ∧ n ≤ 2147483647 then Severity.ofRaw (Int32.ofInt n)
    else (Severity.ofText s).map some
  | none => (Severity.ofText s).map some

inductive SettingsError where
  | file (path : String) (cause : LogError)
  | level (cause : LogError)
  deriving DecidableEq, Repr

namespace SettingsError

def cause : SettingsError → LogError
  | file _ cause | level cause => cause

def context? : SettingsError → Option String
  | file path _ => some ("Failed to load config from " ++ path)
  | level _ => none

def message (e : SettingsError) : String :=
  match e.context? with
  | some context => context ++ ": " ++ e.cause.message
  | none => e.cause.message

end SettingsError

namespace Settings

def base (s : Settings) (files : Files) : Except SettingsError Config :=
  match s.config with
  | some path => (Config.ofFile path files).mapError (.file path)
  | none => .ok {}

def severityOver (s : Settings) (current : Option Severity) :
    Except SettingsError (Option Severity) :=
  match s.level with
  | some level => (parseLevel level).mapError .level
  | none => .ok current

/-- The configuration that takes effect. Subsystems can be switched off here, but not on. -/
def effective (s : Settings) (files : Files) : Except SettingsError Config := do
  let c ← s.base files
  let severity ← s.severityOver c.logging.severity
  return { c with
    logging := {
      severity
      console := c.logging.console && !s.consoleOff
      registry := c.logging.registry && !s.registryOff
      external := c.logging.external && !s.externalOff
      backendConfig := s.backendConfig.or c.logging.backendConfig }
    console := ⟨s.format.getD c.console.format⟩ }

end Settings

/-! The command line -/

inductive Flag where
  | consoleOff
  | registryOff
  | externalOff
  | verbose
  | printConfig
  | help
  | version
  deriving DecidableEq, Repr

inductive Parameter where
  | config
  | level
  | backendConfig
  | format
  | output
  | space
  | name
  deriving DecidableEq, Repr

inductive Key where
  | flag (f : Flag)
  | parameter (p : Parameter)
  deriving DecidableEq, Repr

namespace Flag

def all : List Flag :=
  [consoleOff, registryOff, externalOff, verbose, printConfig, help, version]

def long : Flag → String
  | consoleOff => "disable-console-logs"
  | registryOff => "disable-registry-logs"
  | externalOff => "disable-external-logs"
  | verbose => "verbose"
  | printConfig => "print-config"
  | help => "help"
  | version => "version"

def short : Flag → Option Char
  | verbose => some 'v'
  | help => some 'h'
  | version => some 'V'
  | _ => none

def set (s : Settings) : Flag → Settings
  | consoleOff => { s with consoleOff := true }
  | registryOff => { s with registryOff := true }
  | externalOff => { s with externalOff := true }
  | verbose => { s with verbose := true }
  | printConfig => { s with printConfig := true }
  | help | version => s

end Flag

namespace Parameter

def all : List Parameter :=
  [config, level, backendConfig, format, output, space, name]

def long : Parameter → String
  | config => "config"
  | level => "log-level"
  | backendConfig => "log-config-file"
  | format => "format"
  | output => "output"
  | space => "namespace"
  | name => "name"

def short : Parameter → Option Char
  | config => some 'c'
  | level => some 'l'
  | format => some 'f'
  | output => some 'o'
  | _ => none

def isPath : Parameter → Bool
  | config | backendConfig | output => true
  | _ => false

/-- A level may be negative, so that whatever follows the option is its value. -/
def takesAny : Parameter → Bool
  | level => true
  | _ => false

def set (v : String) (s : Settings) : Parameter → Settings
  | config => { s with config := some v }
  | level => { s with level := some v }
  | backendConfig => { s with backendConfig := some v }
  | format => { s with format := some v }
  | output => { s with output := v }
  | space => { s with space := v }
  | name => { s with name := v }

end Parameter

namespace Key

def all : List Key :=
  Flag.all.map flag ++ Parameter.all.map parameter

def long : Key → String
  | flag f => f.long
  | parameter p => p.long

def short : Key → Option Char
  | flag f => f.short
  | parameter p => p.short

def ofLong? (name : String) : Option Key :=
  all.find? (·.long = name)

def ofShort? (c : Char) : Option Key :=
  all.find? (·.short = some c)

end Key

/-- Why a command line is not run. Asking for help or for the version is one of the reasons. -/
inductive Rejection where
  | unknownArgument
  | invalidValue
  | argumentConflict
  | tooManyValues
  | help
  | version
  deriving DecidableEq, Repr

/-- `pending` is the latest option, with its value if that is there already; `closed` that nothing
may follow. -/
structure CommandLine where
  settings : Settings := {}
  given : List Key := []
  pending : Option (Parameter × Option String) := none
  closed : Bool := false
  deriving DecidableEq, Repr

namespace CommandLine

def enter (k : Key) (l : CommandLine) : Except Rejection CommandLine :=
  if k ∈ l.given then .error .argumentConflict else .ok { l with given := k :: l.given }

def assign (p : Parameter) (v : String) (l : CommandLine) : Except Rejection CommandLine := do
  let l ← l.enter (.parameter p)
  if p.isPath ∧ v = "" then .error .invalidValue
  else .ok { l with settings := p.set v l.settings }

def settle (l : CommandLine) : Except Rejection CommandLine :=
  match l.pending with
  | none => .ok l
  | some (_, none) => .error .invalidValue
  | some (p, some v) => { l with pending := none }.assign p v

def turnOn (f : Flag) (l : CommandLine) : Except Rejection CommandLine := do
  let l ← l.settle
  match f with
  | .help => .error .help
  | .version => .error .version
  | f =>
    let l ← l.enter (.flag f)
    return { l with settings := f.set l.settings }

def await (p : Parameter) (l : CommandLine) : Except Rejection CommandLine := do
  let l ← l.settle
  return { l with pending := some (p, none) }

def assignNow (p : Parameter) (v : List Char) (l : CommandLine) :
    Except Rejection CommandLine := do
  (← l.settle).assign p (String.ofList v)

def long (s : List Char) (l : CommandLine) : Except Rejection CommandLine :=
  let (name, rest) := s.span (· ≠ '=')
  match Key.ofLong? (String.ofList name), rest with
  | none, _ => .error .unknownArgument
  | some (.flag f), [] => l.turnOn f
  | some (.flag _), _ :: _ => .error .tooManyValues
  | some (.parameter p), [] => l.await p
  | some (.parameter p), _ :: v => l.assignNow p v

/-- What follows one dash: flags, and perhaps an option with its value at the end. -/
def cluster : List Char → CommandLine → Except Rejection CommandLine
  | [], l => .ok l
  | c :: rest, l =>
    match Key.ofShort? c with
    | none => .error .unknownArgument
    | some (.flag f) => do cluster rest (← l.turnOn f)
    | some (.parameter p) =>
      match rest with
      | [] => l.await p
      | '=' :: v => l.assignNow p v
      | v => l.assignNow p v

def supply (arg : String) (l : CommandLine) : Except Rejection CommandLine :=
  match l.pending with
  | some (p, none) => .ok { l with pending := some (p, some arg) }
  | _ => .error .unknownArgument

def takesAny (l : CommandLine) : Bool :=
  match l.pending with
  | some (p, none) => p.takesAny
  | _ => false

def read (arg : String) (l : CommandLine) : Except Rejection CommandLine :=
  if l.closed then .error .unknownArgument
  else if l.takesAny then l.supply arg
  else match arg.toList with
    | ['-', '-'] => .ok { l with closed := true }
    | '-' :: '-' :: s => l.long s
    | '-' :: c :: s => l.cluster (c :: s)
    | _ => l.supply arg

end CommandLine

def Settings.ofArguments (args : List String) : Except Rejection Settings := do
  let l ← args.foldlM (fun l arg => l.read arg) ({} : CommandLine)
  return (← l.settle).settings

/-! What the relay says about itself -/

def version : String := "logrelay 0.1.0\n"

def Flag.purpose : Flag → String
  | consoleOff => "Do not write events to the console"
  | registryOff => "Do not publish events on per-logger endpoints"
  | externalOff => "Do not forward events to the tracing backend"
  | verbose => "Enable verbose logging"
  | printConfig => "Print the effective configuration and exit"
  | help => "Print help"
  | version => "Print version"

def Parameter.purpose : Parameter → String
  | config => "Path to configuration file (TOML)"
  | level => "Default severity, by name or level (negative leaves it unset)"
  | backendConfig => "Configuration file for the tracing backend"
  | format => "Console format: pretty, json, or raw (overrides config)"
  | output =>
    "File the endpoints append published records to, one JSON object per line [default: " ++
      ({} : Settings).output ++ "]"
  | space => "Namespace of the node logging the input [default: " ++ ({} : Settings).space ++ "]"
  | name => "Name of the node logging the input [default: " ++ ({} : Settings).name ++ "]"

def Key.purpose : Key → String
  | .flag f => f.purpose
  | .parameter p => p.purpose

def Key.usage (k : Key) : String :=
  let short := match k.short with
    | some c => "  -" ++ String.singleton c ++ ", --"
    | none => "      --"
  let value := match k with
    | .flag _ => ""
    | .parameter _ => " <VALUE>"
  short ++ k.long ++ value ++ "\n          " ++ k.purpose ++ "\n"

def usage : String :=
  "Route log lines to the console, per-logger endpoints and tracing\n\n" ++
    "Usage: logrelay [OPTIONS]\n\nOptions:\n" ++ String.join (Key.all.map Key.usage)

def Rejection.message : Rejection → String
  | .unknownArgument => "unexpected argument"
  | .invalidValue => "a value is required"
  | .argumentConflict => "an argument cannot be used multiple times"
  | .tooManyValues => "unexpected value for a flag"
  | .help => "help was asked for"
  | .version => "the version was asked for"

end LogRouting.Relay
