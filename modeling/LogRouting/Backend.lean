import LogRouting.Dispatch
import LogRouting.Files
import LogRouting.Toml.Reader
/-!
The external backend that events are forwarded to. It is started, perhaps from a configuration file
of its own, and shut down again. The one here emits a notice for every event that is at least as
severe as the level of its logger; the levels come from a TOML document.
-/
namespace LogRouting

/-- `setLevel none` sets the level of all loggers that have none of their own. -/
class Backend (B : Type) where
  start : (path : Option String) → B → Except BackendError Unit × B
  setLevel : (logger : Option String) → Severity → B → Except BackendError Unit × B
  forward : Severity → (logger message : String) → B → Completion × B
  shutdown : B → Except BackendError Unit × B

/-! Levels by logger -/

structure LevelFilter where
  running : Bool := false
  level : Severity := .unset
  loggers : List (String × Severity) := []
  deriving DecidableEq, Repr, Inhabited

namespace LevelFilter

def levelOf (f : LevelFilter) (logger : String) : Severity :=
  (f.loggers.lookup logger).getD f.level

def passes (f : LevelFilter) (logger : String) (s : Severity) : Bool :=
  f.running && f.levelOf logger ≤ s

def setLevel (logger : Option String) (s : Severity) (f : LevelFilter) : LevelFilter :=
  match logger with
  | some name => { f with loggers := (name, s) :: f.loggers.filter (·.1 ≠ name) }
  | none => { f with level := s }

def isUnit : Toml.Value → Bool
  | .table _ es => es.isEmpty
  | .array items => items.isEmpty
  | .tables elements => elements.isEmpty
  | _ => false

/-- The exact word as a string, or as the one key of a table that holds nothing under it. -/
def severity? : Toml.Value → Option Severity
  | .string w => Severity.ofWord? w
  | .table _ [(w, v)] => if isUnit v then Severity.ofWord? w else none
  | _ => none

def loggers? : Toml.Value → Option (List (String × Severity))
  | .table _ es => es.mapM fun (name, v) => (severity? v).map (name, ·)
  | _ => none

/-- A running filter with the levels of a document: the key `level` and the table `loggers`. -/
def ofToml? (s : String) : Option LevelFilter := do
  let es ← Toml.parse? s.toList
  let level ← match es.lookup "level" with
    | some v => severity? v
    | none => some .unset
  let loggers ← match es.lookup "loggers" with
    | some v => loggers? v
    | none => some []
  return { running := true, level, loggers }

end LevelFilter

/-! Notices. There are four levels of them, so a fatal event is an error with a mark. -/

namespace Notice

inductive Level where
  | debug
  | info
  | warn
  | error
  deriving DecidableEq, Repr, Inhabited

def Level.label : Level → String
  | debug => "DEBUG"
  | info => "INFO"
  | warn => "WARN"
  | error => "ERROR"

def Level.ofSeverity : Severity → Level
  | .unset | .debug => debug
  | .info => info
  | .warn => warn
  | .error | .fatal => error

end Notice

structure Notice where
  level : Notice.Level
  logger : String
  message : String
  fatal : Bool
  deriving DecidableEq, Repr, Inhabited

namespace Notice

def ofEvent (s : Severity) (logger message : String) : Notice where
  level := .ofSeverity s
  logger := logger
  message := message
  fatal := s = .fatal

def codeEscape (c : Char) : List Char :=
  ['\\', 'u', '\x7b'] ++ Nat.toDigits 16 c.toNat ++ ['\x7d']

def quotedChar (c : Char) : List Char :=
  match c with
  | '\x22' => ['\\', c]
  | '\\' => ['\\', c]
  | '\n' => ['\\', 'n']
  | '\r' => ['\\', 'r']
  | '\t' => ['\\', 't']
  | '\x00' => ['\\', '0']
  | _ => if Text.isPrintable c then [c] else codeEscape c

/-- A character as it stands in a message. Controls that can steer a terminal show their codes. -/
def messageChar (c : Char) : List Char :=
  match c with
  | '\x07' => ['\\', 'x', '0', '7']
  | '\x08' => ['\\', 'x', '0', '8']
  | '\x0c' => ['\\', 'x', '0', 'c']
  | '\x1b' => ['\\', 'x', '1', 'b']
  | '\x7f' => ['\\', 'x', '7', 'f']
  | _ => if 0x80 ≤ c.toNat ∧ c.toNat < 0xA0 then codeEscape c else [c]

def line (n : Notice) : List Char :=
  n.level.label.toList ++ ' ' :: n.message.toList.flatMap messageChar ++ " logger=".toList ++
    '\x22' :: n.logger.toList.flatMap quotedChar ++ '\x22' ::
    if n.fatal then " fatal=true".toList else []

end Notice

/-! The backend -/

structure Tracing where
  files : Files := {}
  filter : LevelFilter := {}
  emitted : List Notice := []
  deriving DecidableEq, Repr, Inhabited

namespace Tracing

def name : String := "tracing"

def unreadable (path : String) : BackendError :=
  .start ("Failed to read " ++ path ++ ": it is not a readable file")

def malformed (path : String) : BackendError :=
  .start ("Failed to parse " ++ path ++ ": it is not a valid document")

def load (path : String) (files : Files) : Except BackendError LevelFilter :=
  match files.read? path with
  | none => .error (unreadable path)
  | some text =>
    match LevelFilter.ofToml? text with
    | none => .error (malformed path)
    | some filter => .ok filter

/-- Starting again replaces all levels; a failure changes nothing. -/
def start (path : Option String) (t : Tracing) : Except BackendError Unit × Tracing :=
  match path with
  | none => (.ok (), { t with filter := { running := true } })
  | some path =>
    match load path t.files with
    | .ok filter => (.ok (), { t with filter })
    | .error e => (.error e, t)

def forward (s : Severity) (logger message : String) (t : Tracing) : Tracing :=
  if t.filter.passes logger s then
    { t with emitted := t.emitted ++ [.ofEvent s logger message] }
  else t

instance : Backend Tracing where
  start := start
  setLevel logger s t := (.ok (), { t with filter := t.filter.setLevel logger s })
  forward s logger message t := (.returned, forward s logger message t)
  shutdown t := (.ok (), { t with filter := {} })

end Tracing

end LogRouting
