import LogRouting.Error
/-!
Log severities: their order, their numbers on the wire, and the words they are written with.
-/
namespace LogRouting

inductive Severity where
  | unset
  | debug
  | info
  | warn
  | error
  | fatal
  deriving DecidableEq, Repr, Inhabited

namespace Severity

def all : List Severity := [unset, debug, info, warn, error, fatal]

def level : Severity → Int32
  | unset => 0
  | debug => 10
  | info => 20
  | warn => 30
  | error => 40
  | fatal => 50

instance : LE Severity where
  le a b := a.level ≤ b.level

instance (a b : Severity) : Decidable (a ≤ b) :=
  inferInstanceAs (Decidable (a.level ≤ b.level))

instance : Ord Severity where
  compare a b := compare a.level b.level

def word : Severity → String
  | unset => "unset"
  | debug => "debug"
  | info => "info"
  | warn => "warn"
  | error => "error"
  | fatal => "fatal"

def label : Severity → String
  | unset => "UNSET"
  | debug => "DEBUG"
  | info => "INFO"
  | warn => "WARN"
  | error => "ERROR"
  | fatal => "FATAL"

def ofLevel? (n : Int32) : Option Severity :=
  all.find? (·.level = n)

def ofWord? (w : String) : Option Severity :=
  all.find? (·.word = w)

/-- A raw level: negative ones set nothing, the others have to be on the wire scale. -/
def ofRaw (n : Int32) : Except LogError (Option Severity) :=
  if n < 0 then .ok none
  else match ofLevel? n with
    | some s => .ok (some s)
    | none => .error (.unknownLevel n)

def ofLevel (n : Int32) : Except LogError Severity :=
  match ofLevel? n with
  | some s => .ok s
  | none => .error (.unknownLevel n)

/-- A word in any case, with blanks around it; `warning` is another word for `warn`. -/
def ofText (s : String) : Except LogError Severity :=
  let w := String.ofList (Text.lowercase (Text.trim s.toList))
  if w = "warning" then .ok warn
  else match ofWord? w with
    | some v => .ok v
    | none => .error (.unknownWord w)

end Severity

end LogRouting
