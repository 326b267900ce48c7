import LogRouting.Relay
import Std.Time.DateTime.Timestamp
/-!
The relay as a program: it reads the files that the command line and the configuration name, feeds
standard input to a session line by line, and delivers what the session wrote after every line.
-/
namespace LogRouting.Relay

def load (path : String) (files : Files) : IO Files := do
  try
    let bytes ← IO.FS.readBinFile path
    return files.write path bytes.data.toList
  catch _ => return files

def openOutput (path : String) : IO IO.FS.Handle := do
  let parent := "/".intercalate (path.splitOn "/").dropLast
  if parent ≠ "" then IO.FS.createDirAll parent
  IO.FS.Handle.mk path .append

def emit (o : Outcome) : IO UInt32 := do
  let stdout ← IO.getStdout
  stdout.write ⟨o.stdout⟩
  stdout.flush
  for n in o.notices do
    IO.eprintln (String.ofList n.line)
  if let some problem := o.problem then
    IO.eprintln ("Error: " ++ problem)
  return o.exit

/-- Appends what a transport has written, and takes it away. A file that cannot take it is full
from then on. -/
def append (output : IO.FS.Handle) (path : String) (t : JsonLines) : IO JsonLines := do
  let bytes := (t.files.bytes? path).getD []
  try
    output.write ⟨bytes.toArray⟩
    output.flush
    return { t with files := t.files.write path [] }
  catch _ =>
    return { t with
      files := t.files.put t.spool.place .fullDevice
      spool := { t.spool with pending := bytes } }

/-- Writes out what a router has written so far, and takes it away. -/
def deliver (s : Settings) (output : IO.FS.Handle) (r : StandardRouter) :
    IO StandardRouter := do
  let _ ← emit (.ofRouter s none r)
  let transport ← append output s.output r.stage.transport
  return { r with stage := { r.stage with
    console := { r.stage.console with writer := {} }
    transport
    backend := { r.stage.backend with value := { r.stage.backend.value with emitted := [] } } } }

partial def readLine (input : IO.FS.Stream) (before : List UInt8) : IO (List UInt8) := do
  let bytes ← input.read 1
  match bytes.data.toList with
  | [] => return before
  | b :: _ => if b = newline then return b :: before else readLine input (b :: before)

def here : Location where
  file := "LogRouting/Main.lean"
  function := "LogRouting.Relay.pump"
  line := 72

def now : IO Int64 := do
  return Int64.ofInt (← Std.Time.Timestamp.now).toNanosecondsSinceUnixEpoch.toInt

partial def pump (s : Settings) (output : IO.FS.Handle) (input : IO.FS.Stream)
    (session : Session) : IO Session := do
  let bytes ← readLine input []
  if bytes = [] then return session
  let time ← now
  let session := (lines bytes.reverse).foldl (fun session line => session.feed time line) session
  let router ← deliver s output session.router
  let session := { session with router }
  if session.broken then return session else pump s output input session

def serve (s : Settings) (c : Config) (output : IO.FS.Handle) : IO UInt32 := do
  let files ← match c.logging.backendConfig with
    | some path => load path {}
    | none => pure {}
  match JsonLines.ofPath s.output {} with
  | .error (e, _) => emit (.ofProblem e.message {})
  | .ok transport =>
    match (bringUp c {} transport files).acquire s.node.owner with
    | (.error e, r) => emit (.ofRouter s (some e.message) r)
    | (.ok guard, r) =>
      let session ← pump s output (← IO.getStdin) ⟨r, guard, here, false⟩
      let (problem, r) := session.finish
      emit (.ofRouter s problem (← deliver s output r))

def start (s : Settings) : IO UInt32 := do
  let files ← match s.config with
    | some path => load path {}
    | none => pure {}
  match s.effective files with
  | .error e => emit (.ofProblem e.message {})
  | .ok c =>
    if s.printConfig then emit (runWith s c {} ⟨fun _ => 0, here, {}⟩ [])
    else
      let output? ← try
          pure (some (← openOutput s.output))
        catch _ => pure none
      match output? with
      | some output => serve s c output
      | none => emit (.ofProblem ("Failed to open " ++ s.output) {})

end LogRouting.Relay

def main (args : List String) : IO UInt32 :=
  match LogRouting.Relay.Settings.ofArguments args with
  | .error r => LogRouting.Relay.emit (.ofRejection {} r)
  | .ok s => LogRouting.Relay.start s
