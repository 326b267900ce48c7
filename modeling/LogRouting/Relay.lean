import LogRouting.Backend
import LogRouting.Relay.CommandLine
import LogRouting.Router
/-!
The relay logs the lines of its input on behalf of one node: to the console, to a file of published
records, and as notices. A run is a value of everything it reads, and its outcome is all it writes.
-/
namespace LogRouting.Relay

def newline : UInt8 := 10

def carriageReturn : UInt8 := 13

def endedLine : List UInt8 → List UInt8
  | [] => []
  | b :: before => if b = carriageReturn then before.reverse else (b :: before).reverse

/-- The lines of a stream, given what stands before it on its first line, nearest byte first. The
last line may lack its end. -/
def linesAfter (before : List UInt8) : List UInt8 → List (List UInt8)
  | [] => if before = [] then [] else [before.reverse]
  | b :: rest =>
    if b = newline then endedLine before :: linesAfter [] rest
    else linesAfter (b :: before) rest

def lines (bytes : List UInt8) : List (List UInt8) :=
  linesAfter [] bytes

def isBlankLine (line : String) : Bool :=
  line.toList.all Text.isBlank

/-- Severity and message of a line: a severity word before the first colon is taken off, with the
white space that follows the colon. All other lines are logged whole, as information. -/
def parseLine (line : String) : Severity × String :=
  let (word, rest) := line.toList.span (· ≠ ':')
  match rest with
  | [] => (.info, line)
  | _ :: message =>
    match Severity.ofText (String.ofList word) with
    | .ok s => (s, String.ofList (Text.trimStart message))
    | .error _ => (.info, line)

abbrev StandardRouter := Router (Console Transcript) JsonLines Tracing

structure Outcome where
  exit : UInt32
  stdout : Array UInt8 := #[]
  files : Files := {}
  notices : List Notice := []
  problem : Option String := none

def Settings.node (s : Settings) : Node where
  id := ⟨1⟩
  space := s.space
  name := s.name

/-- What a run meets beside its files and its input: when the nth line is read, where lines are
logged, and what the allocator grants. -/
structure Conditions where
  clock : Nat → Int64
  here : Location
  memory : Memory := {}

/-- A configured router. Subsystems that did not come up are left out of it. -/
def bringUp (c : Config) (memory : Memory) (transport : JsonLines) (files : Files) :
    StandardRouter :=
  let r := Router.new c.registry ⟨.ofText c.console.format, {}⟩ transport { files }
  ((r.allot memory).configure c.logging).2

structure Session where
  router : StandardRouter
  guard : Guard
  here : Location
  broken : Bool := false

namespace Session

def event (s : Session) (time : Int64) (line : String) : Event :=
  let (severity, message) := parseLine line
  { severity, logger := s.guard.name, nanos := time, message, location := some s.here }

def feed (time : Int64) (line : List UInt8) (s : Session) : Session :=
  if s.broken then s
  else match decode? line with
    | none => { s with broken := true }
    | some text =>
      if isBlankLine text then s
      else { s with router := (s.router.log (s.event time text)).2 }

/-- Logs lines, the nth of them read when the clock says so for `n`. -/
def feedAll (clock : Nat → Int64) (lines : List (List UInt8)) (s : Session) : Session :=
  lines.zipIdx.foldl (fun s (line, n) => s.feed (clock n) line) s

def unreadable : String := "Failed to read stdin: stream did not contain valid UTF-8"

def finish (s : Session) : Option String × StandardRouter :=
  let (released, r) := s.router.release s.guard
  if s.broken then (some unreadable, r)
  else match released with
    | .error e => (some e.message, r)
    | .ok () =>
      match r.shutdown with
      | (.error e, r) => (some e.message, r)
      | (.ok (), r) => (none, r)

end Session

def Outcome.ofProblem (problem : String) (files : Files) : Outcome where
  exit := 1
  files := files
  problem := some problem

def Outcome.ofRejection (files : Files) : Rejection → Outcome
  | .help => { exit := 0, stdout := usage.toUTF8.data, files }
  | .version => { exit := 0, stdout := version.toUTF8.data, files }
  | r => { exit := 2, files, problem := some r.message }

/-- Notices at the lowest level are for verbose runs only. -/
def Settings.shows (s : Settings) (n : Notice) : Bool :=
  s.verbose || n.level ≠ .debug

def Outcome.ofRouter (s : Settings) (problem : Option String) (r : StandardRouter) : Outcome where
  exit := if problem.isSome then 1 else 0
  stdout := r.stage.console.writer.taken
  files := r.stage.transport.close
  notices := r.stage.backend.value.emitted.filter s.shows
  problem := problem

def relay (s : Settings) (c : Config) (m : Conditions) (lines : List (List UInt8))
    (transport : JsonLines) : Outcome :=
  match (bringUp c m.memory transport transport.files).acquire s.node.owner with
  | (.error e, r) => .ofRouter s (some e.message) r
  | (.ok guard, r) =>
    let (problem, r) := (Session.feedAll m.clock lines ⟨r, guard, m.here, false⟩).finish
    .ofRouter s problem r

def runWith (s : Settings) (c : Config) (files : Files) (m : Conditions) (stdin : List UInt8) :
    Outcome :=
  if s.printConfig then
    match c.toToml with
    | .ok text => { exit := 0, stdout := (text ++ "\n").toUTF8.data, files }
    | .error e => .ofProblem e.message files
  else
    match JsonLines.ofPath s.output files with
    | .error (e, files) => .ofProblem ("Failed to open " ++ s.output ++ ": " ++ e.message) files
    | .ok transport => relay s c m (lines stdin) transport

def run (args : List String) (files : Files) (m : Conditions) (stdin : List UInt8) : Outcome :=
  match Settings.ofArguments args with
  | .error r => .ofRejection files r
  | .ok s =>
    match s.effective files with
    | .error e => .ofProblem e.message files
    | .ok c => runWith s c files m stdin

end LogRouting.Relay
