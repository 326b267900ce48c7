import LogRouting.Text
/-!
A small file system as a value: enough to read a file whole, and to append to one through a buffer
after making the directories above it. Paths are relative to a working directory unless they start
with a slash.
-/
namespace LogRouting

/-- A full device can be opened for appending, but takes nothing. -/
inductive FileNode where
  | file (content : List UInt8)
  | directory
  | fullDevice
  deriving DecidableEq, Repr

/-- The steps from the working directory, or from the root, which is a step of its own. The
directories above the working directory are reached by steps up. -/
abbrev Place := List String

structure Files where
  nodes : List (Place × FileNode) := []
  deriving DecidableEq, Repr, Inhabited

namespace Files

def rootStep : String := "/"

def upStep : String := ".."

def isAnchor (place : Place) : Bool :=
  place = [rootStep] || place.all (· = upStep)

def node? (fs : Files) (place : Place) : Option FileNode :=
  if isAnchor place then some .directory else fs.nodes.lookup place

def put (fs : Files) (place : Place) (n : FileNode) : Files :=
  ⟨(place, n) :: fs.nodes.filter (·.1 ≠ place)⟩

def nameLimit : Nat := 255

def pathLimit : Nat := 4096

def isPath (path : String) : Bool :=
  path.utf8ByteSize < pathLimit && !path.toList.contains '\x00'

def make? (fs : Files) (place : Place) (n : FileNode) : Option Files :=
  if (place.getLast?.getD "").utf8ByteSize ≤ nameLimit then some (fs.put place n) else none

def leadsOn (step : String) : Bool :=
  step ≠ "" && step ≠ "."

def parts (path : String) : List String :=
  (path.toList.splitOn '/').map String.ofList

def steps (path : String) : Place :=
  let named := (parts path).filter leadsOn
  if path.toList.head? = some '/' then rootStep :: named else named

def endsInDirectory (path : String) : Bool :=
  (parts path).getLast?.any (!leadsOn ·)

/-- A path without its last step; what led nowhere before it goes too. -/
def parent (path : String) : String :=
  let back := fun (l : List String) => l.dropWhile (!leadsOn ·)
  "/".intercalate (back (back (parts path).reverse).tail).reverse

def advance (place : Place) (step : String) : Place :=
  if step ≠ upStep then place ++ [step]
  else if place = [rootStep] then place
  else if isAnchor place then place ++ [upStep]
  else place.dropLast

def follow (fs : Files) (place : Place) : Place → Option Place
  | [] => some place
  | [last] => some (advance place last)
  | step :: rest =>
    if fs.node? (advance place step) = some .directory then fs.follow (advance place step) rest
    else none

def locate? (fs : Files) (path : String) : Option Place :=
  if path ≠ "" ∧ isPath path then fs.follow [] (steps path) else none

def bytes? (fs : Files) (path : String) : Option (List UInt8) := do
  let .file content ← fs.node? (← fs.locate? path) | none
  if endsInDirectory path then none else some content

def read? (fs : Files) (path : String) : Option String :=
  (fs.bytes? path).bind decode?

/-- Makes the directories that steps lead through, up to the first that cannot be made, and tells
whether there was none such. -/
def makeSteps (fs : Files) (place : Place) : Place → Bool × Files
  | [] => (true, fs)
  | step :: rest =>
    let next := advance place step
    match fs.node? next with
    | some .directory => fs.makeSteps next rest
    | some _ => (false, fs)
    | none =>
      match fs.make? next .directory with
      | some fs => fs.makeSteps next rest
      | none => (false, fs)

def makeDirectories (fs : Files) (path : String) : Bool × Files :=
  if isPath path then fs.makeSteps [] (steps path) else (false, fs)

def openFile? (fs : Files) (path : String) : Option (Place × Files) := do
  let place ← fs.locate? path
  if endsInDirectory path then none
  else match fs.node? place with
    | some .directory => none
    | some _ => some (place, fs)
    | none => (fs.make? place (.file [])).map fun fs => (place, fs)

/-- Opens a file for appending, after making the directories above it; these stay if it cannot be
opened. -/
def openForAppend (fs : Files) (path : String) : Option Place × Files :=
  match fs.makeDirectories (parent path) with
  | (false, fs) => (none, fs)
  | (true, fs) =>
    match fs.openFile? path with
    | some (place, fs) => (some place, fs)
    | none => (none, fs)

def write (fs : Files) (path : String) (content : List UInt8) : Files :=
  match fs.openForAppend path with
  | (some place, fs) =>
    match fs.node? place with
    | some (.file _) => fs.put place (.file content)
    | _ => fs
  | (none, fs) => fs

/-- Adds bytes at the end of what stands at a place; none if it takes nothing. -/
def append? (fs : Files) (place : Place) (bytes : List UInt8) : Option Files :=
  match fs.node? place with
  | some (.file content) => some (fs.put place (.file (content ++ bytes)))
  | _ => none

end Files

/-! Buffered appending to one file. Pieces are collected until the next one does not fit; what could
not be written stays in the buffer. -/

structure Spool where
  place : Place
  pending : List UInt8 := []
  deriving DecidableEq, Repr, Inhabited

namespace Spool

def capacity : Nat := 8192

abbrev Result := Bool × Spool × Files

def flush (s : Spool) (fs : Files) : Result :=
  if s.pending = [] then (true, s, fs)
  else match fs.append? s.place s.pending with
    | some fs => (true, { s with pending := [] }, fs)
    | none => (false, s, fs)

/-- A piece as large as the buffer is written past it. -/
def hold (piece : List UInt8) (s : Spool) (fs : Files) : Result :=
  if piece.length < capacity then (true, { s with pending := s.pending ++ piece }, fs)
  else match fs.append? s.place piece with
    | some fs => (true, s, fs)
    | none => (false, s, fs)

def put (piece : List UInt8) (s : Spool) (fs : Files) : Result :=
  if s.pending.length + piece.length ≤ capacity then s.hold piece fs
  else match s.flush fs with
    | (true, s, fs) => s.hold piece fs
    | failed => failed

def putAll : List (List UInt8) → Spool → Files → Result
  | [], s, fs => (true, s, fs)
  | piece :: rest, s, fs =>
    match s.put piece fs with
    | (true, s, fs) => putAll rest s fs
    | failed => failed

end Spool

end LogRouting
