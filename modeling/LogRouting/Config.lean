import LogRouting.Files
import LogRouting.Json
import LogRouting.Severity
import LogRouting.Toml.Reader
/-!
What a router is configured with, and how it is read and written. Every setting has a default. A
document format says how it gives single values and tables, and the fields say what is done with
them; reading stops at the first fault.
-/
namespace LogRouting

/-- What `Router.configure` brings up. Without a severity the current threshold stays. -/
structure Options where
  severity : Option Severity := none
  console : Bool := true
  registry : Bool := true
  external : Bool := true
  backendConfig : Option String := none
  deriving DecidableEq, Repr, Inhabited

def Options.withLevel (o : Options) (level : Int32) : Except LogError Options := do
  let severity ← Severity.ofRaw level
  return { o with severity }

structure RegistryConfig where
  topic : String := "rosout"
  initialCapacity : UInt64 := 2
  maxLoggers : Option UInt64 := none
  deriving DecidableEq, Repr, Inhabited

structure ConsoleConfig where
  format : String := "pretty"
  deriving DecidableEq, Repr, Inhabited

structure Config where
  logging : Options := {}
  registry : RegistryConfig := {}
  console : ConsoleConfig := {}
  deriving DecidableEq, Repr, Inhabited

end LogRouting

namespace LogRouting.Config

/-- A severity fault is one of a well-formed value; all else that is wrong is `malformed`. -/
inductive Fault where
  | malformed
  | severity (cause : LogError)
  deriving DecidableEq, Repr

structure Field (V α : Type) where
  name : String
  read : V → α → Except Fault α

/-- How a format gives values. A table may also be given as its values in field order; what it
leaves out stays as it was. -/
class Source (V : Type) where
  text : V → Except Fault String
  flag : V → Except Fault Bool
  count : V → Except Fault UInt64
  levelOrWord : V → Except Fault (Int32 ⊕ String)
  isAbsent : V → Bool
  table : {α : Type} → List (Field V α) → V → α → Except Fault α

variable {V : Type} [Source V]

def optional {α : Type} (read : V → Except Fault α) (v : V) : Except Fault (Option α) :=
  if Source.isAbsent v then .ok none else (read v).map some

/-- A severity by its word in any spelling, or as a raw level. -/
def severity (v : V) : Except Fault (Option Severity) := do
  match ← Source.levelOrWord v with
  | .inl level => (Severity.ofRaw level).mapError .severity
  | .inr word => ((Severity.ofText word).map some).mapError .severity

def optionFields : List (Field V Options) := [
  ⟨"default_severity", fun v o => do return { o with severity := ← severity v }⟩,
  ⟨"console_enabled", fun v o => do return { o with console := ← Source.flag v }⟩,
  ⟨"registry_enabled", fun v o => do return { o with registry := ← Source.flag v }⟩,
  ⟨"external_enabled", fun v o => do return { o with external := ← Source.flag v }⟩,
  ⟨"external_config_path", fun v o => do
    return { o with backendConfig := ← optional Source.text v }⟩]

def registryFields : List (Field V RegistryConfig) := [
  ⟨"topic", fun v c => do return { c with topic := ← Source.text v }⟩,
  ⟨"initial_capacity", fun v c => do return { c with initialCapacity := ← Source.count v }⟩,
  ⟨"max_loggers", fun v c => do return { c with maxLoggers := ← optional Source.count v }⟩]

def consoleFields : List (Field V ConsoleConfig) := [
  ⟨"format", fun v c => do return { c with format := ← Source.text v }⟩]

def fields : List (Field V Config) := [
  ⟨"logging", fun v c => do return { c with logging := ← Source.table optionFields v {} }⟩,
  ⟨"registry", fun v c => do return { c with registry := ← Source.table registryFields v {} }⟩,
  ⟨"console", fun v c => do return { c with console := ← Source.table consoleFields v {} }⟩]

end LogRouting.Config

namespace LogRouting

/-! TOML: three tables, read with any settings left out and written with all that are set. -/

namespace Toml

def Value.text : Value → Except Config.Fault String
  | .string s => .ok s
  | _ => .error .malformed

def Value.flag : Value → Except Config.Fault Bool
  | .boolean b => .ok b
  | _ => .error .malformed

def Value.count : Value → Except Config.Fault UInt64
  | .integer n => if 0 ≤ n then .ok (UInt64.ofNat n.toNat) else .error .malformed
  | _ => .error .malformed

def Value.levelOrWord : Value → Except Config.Fault (Int32 ⊕ String)
  | .integer n =>
    if -2147483648 ≤ n ∧ n ≤ 2147483647 then .ok (.inl (Int32.ofInt n)) else .error .malformed
  | .string s => .ok (.inr s)
  | _ => .error .malformed

/-- Keys that name no field are passed over. -/
def Entries.read {α : Type} (fields : List (Config.Field Value α)) (es : Entries) (a : α) :
    Except Config.Fault α :=
  es.foldlM (fun a e =>
    match fields.find? (·.name = e.1) with
    | some f => f.read e.2 a
    | none => .ok a) a

/-- A date counts as a table without known keys. -/
def Value.readTable {α : Type} (fields : List (Config.Field Value α)) (v : Value) (a : α) :
    Except Config.Fault α :=
  match v with
  | .table _ es => Entries.read fields es a
  | .array items => (fields.zip items).foldlM (fun a (f, v) => f.read v a) a
  | .tables elements =>
    (fields.zip elements).foldlM (fun a (f, es) => f.read (.table .header es) a) a
  | .datetime => .ok a
  | _ => .error .malformed

instance : Config.Source Value where
  text := Value.text
  flag := Value.flag
  count := Value.count
  levelOrWord := Value.levelOrWord
  isAbsent _ := false
  table := Value.readTable

end Toml

namespace Config

def readToml (s : List Char) : Except Fault Config :=
  match Toml.parse? s with
  | some es => es.read fields {}
  | none => .error .malformed

def Fault.reason : Fault → String
  | malformed => "not a valid document"
  | severity cause => cause.message

def ofToml (s : String) : Except LogError Config :=
  (readToml s.toList).mapError fun f => .config ("Failed to parse config: " ++ f.reason)

def unreadable : LogError :=
  .config "Failed to read config file: it is not a readable file"

def ofFile (path : String) (files : Files) : Except LogError Config :=
  match files.read? path with
  | some text => ofToml text
  | none => .error unreadable

def optionEntries (o : Options) : List (String × Toml.Scalar) :=
  (o.severity.map fun s => ("default_severity", Toml.Scalar.text s.word)).toList ++
  [("console_enabled", .flag o.console), ("registry_enabled", .flag o.registry),
    ("external_enabled", .flag o.external)] ++
  (o.backendConfig.map fun p => ("external_config_path", Toml.Scalar.text p)).toList

def registryEntries (c : RegistryConfig) : List (String × Toml.Scalar) :=
  [("topic", .text c.topic), ("initial_capacity", .natural c.initialCapacity.toNat)] ++
  (c.maxLoggers.map fun n => ("max_loggers", Toml.Scalar.natural n.toNat)).toList

def consoleEntries (c : ConsoleConfig) : List (String × Toml.Scalar) :=
  [("format", .text c.format)]

def tables (c : Config) : List Toml.Table :=
  [⟨"logging", optionEntries c.logging⟩, ⟨"registry", registryEntries c.registry⟩,
    ⟨"console", consoleEntries c.console⟩]

def hasToml (c : Config) : Bool :=
  c.registry.initialCapacity.toNat < Toml.integerBound &&
    c.registry.maxLoggers.all (·.toNat < Toml.integerBound)

def toToml (c : Config) : Except LogError String :=
  if c.hasToml then .ok (String.ofList (Toml.render c.tables))
  else .error (.config "Failed to serialize config: out-of-range value for u64 type")

end Config

end LogRouting

namespace LogRouting

/-! JSON. Of a fault in a value and a text that breaks later on, the fault counts. -/

namespace Json

def text (v : Json) : Except Config.Fault String :=
  match v.text? with
  | some s => .ok s
  | none => .error .malformed

def flag : Json → Except Config.Fault Bool
  | bool b => .ok b
  | _ => .error .malformed

def count (v : Json) : Except Config.Fault UInt64 :=
  match v.uint64? with
  | some n => .ok n
  | none => .error .malformed

def levelOrWord (v : Json) : Except Config.Fault (Int32 ⊕ String) :=
  match v.int32?, v.text? with
  | some n, _ => .ok (.inl n)
  | none, some s => .ok (.inr s)
  | none, none => .error .malformed

def isNull : Json → Bool
  | null => true
  | _ => false

/-- Reads the members one after another; `seen` holds the fields that have been given. -/
def readMembers {α : Type} (fields : List (Config.Field Json α)) (seen : List String) :
    List (Option String × Json) → α → Except Config.Fault α
  | [], a => .ok a
  | (none, _) :: _, _ => .error .malformed
  | (some key, v) :: ms, a =>
    match fields.find? (·.name = key) with
    | some f =>
      if key ∈ seen then .error .malformed
      else do readMembers fields (key :: seen) ms (← f.read v a)
    | none => if v.complete then readMembers fields seen ms a else .error .malformed

def readTable {α : Type} (fields : List (Config.Field Json α)) (v : Json) (a : α) :
    Except Config.Fault α :=
  match v with
  | object ms closed => do
    let a ← readMembers fields [] ms a
    if closed then .ok a else .error .malformed
  | array items closed => do
    let a ← (fields.zip items).foldlM (fun a (f, v) => f.read v a) a
    if closed ∧ items.length ≤ fields.length then .ok a else .error .malformed
  | _ => .error .malformed

instance : Config.Source Json where
  text := Json.text
  flag := Json.flag
  count := Json.count
  levelOrWord := Json.levelOrWord
  isAbsent := Json.isNull
  table := Json.readTable

end Json

namespace Config

def readJson (s : List Char) : Except Fault Config :=
  match Json.parse s with
  | (v, whole) => do
    let c ← v.readTable fields {}
    if whole then .ok c else .error .malformed

end Config

end LogRouting
