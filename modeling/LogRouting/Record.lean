import LogRouting.Json
import LogRouting.Severity
/-!
Log events, and the records that are published for them, with the JSON that records and severities
are written as. A record carries its time as whole seconds and nanoseconds.
-/
namespace LogRouting

structure Location where
  file : String
  function : String
  line : UInt32
  deriving DecidableEq, Repr

/-- `nanos` counts nanoseconds since the Unix epoch. -/
structure Event where
  severity : Severity
  logger : String
  nanos : Int64
  message : String
  location : Option Location := none
  deriving DecidableEq, Repr

structure Stamp where
  sec : Int32
  nanosec : UInt32
  deriving DecidableEq, Repr, Inhabited

namespace Stamp

def nanosPerSec : Int := 1000000000

def saturate (n : Int) : Int32 :=
  Int32.ofInt (max (-2147483648) (min n 2147483647))

/-- Seconds round down and stay within 32 bits; what is left over is never negative. -/
def ofNanos (t : Int64) : Stamp where
  sec := saturate (t.toInt / nanosPerSec)
  nanosec := UInt32.ofNat (t.toInt % nanosPerSec).toNat

def text (s : Stamp) : List Char :=
  Text.signedNumeral s.sec.toInt ++ '.' :: Text.paddedNumeral 9 s.nanosec.toNat

end Stamp

/-- An event without a location leaves `file` and `function` empty and `line` zero. -/
structure Record where
  stamp : Stamp
  level : Int32
  name : String
  msg : String
  file : String
  function : String
  line : UInt32
  deriving DecidableEq, Repr, Inhabited

namespace Record

def ofEvent (e : Event) : Record where
  stamp := .ofNanos e.nanos
  level := e.severity.level
  name := e.logger
  msg := e.message
  file := (e.location.map (·.file)).getD ""
  function := (e.location.map (·.function)).getD ""
  line := (e.location.map (·.line)).getD 0

def severity? (r : Record) : Option Severity :=
  Severity.ofLevel? r.level

end Record

/-! JSON -/

namespace Stamp

def fields : List String := ["sec", "nanosec"]

def pieces (s : Stamp) : Json.Pieces :=
  Json.objectPieces [("sec", Json.integerPiece s.sec.toInt),
    ("nanosec", Json.naturalPiece s.nanosec.toNat)]

def ofJson? (v : Json) : Option Stamp := do
  guard (v.holds fields)
  let sec ← (← v.field? 0 "sec").int32?
  let nanosec ← (← v.field? 1 "nanosec").uint32?
  some { sec, nanosec }

end Stamp

namespace Record

def fields : List String :=
  ["stamp", "level", "name", "msg", "file", "function", "line"]

def members (r : Record) : List (String × Json.Pieces) :=
  [("stamp", r.stamp.pieces), ("level", Json.integerPiece r.level.toInt),
    ("name", Json.quoted r.name), ("msg", Json.quoted r.msg), ("file", Json.quoted r.file),
    ("function", Json.quoted r.function), ("line", Json.naturalPiece r.line.toNat)]

def toJson (r : Record) : List Char :=
  (Json.objectPieces r.members).flatten

/-- Every field has to be there; fields that no record has are passed over. -/
def ofJson? (v : Json) : Option Record := do
  guard (v.holds fields)
  let stamp ← Stamp.ofJson? (← v.field? 0 "stamp")
  let level ← (← v.field? 1 "level").int32?
  let name ← (← v.field? 2 "name").text?
  let msg ← (← v.field? 3 "msg").text?
  let file ← (← v.field? 4 "file").text?
  let function ← (← v.field? 5 "function").text?
  let line ← (← v.field? 6 "line").uint32?
  some { stamp, level, name, msg, file, function, line }

def parse? (s : String) : Option Record :=
  match Json.parse s.toList with
  | (v, true) => ofJson? v
  | (_, false) => none

end Record

namespace Severity

/-- A severity is its word, or an object with its word as the only key and nothing under it. -/
def ofJson? : Json → Option Severity
  | .string (some w) => ofWord? w
  | .object [(some w, .null)] true => ofWord? w
  | _ => none

def parse? (s : String) : Option Severity :=
  match Json.parse s.toList with
  | (v, true) => ofJson? v
  | (_, false) => none

end Severity

end LogRouting
