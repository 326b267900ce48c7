import LogRouting.Files
import LogRouting.Record
/-!
Transports create and destroy the endpoints that records are published on. Their state lives in
the devices `D`, which every operation takes and gives back. One transport keeps what it is asked to
do and can be told to fail; another appends every published record to a file.
-/
namespace LogRouting

/-- A handle for publishing on one topic on behalf of one owner. -/
structure Endpoint where
  owner : OwnerId
  topic : String
  deriving DecidableEq, Repr

/-- An endpoint that could not be destroyed stays usable. -/
class Transport (D : Type) where
  create : OwnerId → (topic : String) → D → Except TransportError Endpoint × D
  destroy : OwnerId → Endpoint → D → Except TransportError Unit × D
  publish : Endpoint → Record → D → Except TransportError Unit × D

/-! Journals -/

/-- Calls are counted from one over the whole life of the journal, failed ones included; the lists
hold successful calls, oldest first. -/
structure Journal where
  createCalls : Nat := 0
  destroyCalls : Nat := 0
  failCreateOn : Option Nat := none
  failDestroyOn : Option Nat := none
  failPublish : Bool := false
  created : List OwnerId := []
  destroyed : List OwnerId := []
  published : List (OwnerId × Record) := []
  deriving DecidableEq, Repr, Inhabited

namespace Journal

def live (j : Journal) : Nat :=
  j.created.length - j.destroyed.length

def publishedBy (j : Journal) (owner : OwnerId) : List Record :=
  (j.published.filter (·.1 = owner)).map (·.2)

def numbered (text : String) (n : Nat) : String :=
  text ++ String.ofList (Text.numeral n)

def create (owner : OwnerId) (topic : String) (j : Journal) :
    Except TransportError Endpoint × Journal :=
  let n := j.createCalls + 1
  if j.failCreateOn = some n then
    (.error (.create topic (numbered "scripted failure on create call " n)),
      { j with createCalls := n })
  else (.ok ⟨owner, topic⟩, { j with createCalls := n, created := j.created ++ [owner] })

def destroy (owner : OwnerId) (_ : Endpoint) (j : Journal) :
    Except TransportError Unit × Journal :=
  let n := j.destroyCalls + 1
  if j.failDestroyOn = some n then
    (.error (.destroy (numbered "scripted failure on destroy call " n)),
      { j with destroyCalls := n })
  else (.ok (), { j with destroyCalls := n, destroyed := j.destroyed ++ [owner] })

def publish (e : Endpoint) (r : Record) (j : Journal) : Except TransportError Unit × Journal :=
  if j.failPublish then (.error (.publish "scripted publish failure"), j)
  else (.ok (), { j with published := j.published ++ [(e.owner, r)] })

instance : Transport Journal where
  create := create
  destroy := destroy
  publish := publish

end Journal

/-! A file of JSON objects, one to a line. All endpoints share one spool, which is flushed after
each line. -/

structure JsonLines where
  files : Files
  spool : Spool
  live : Nat := 0
  deriving DecidableEq, Repr, Inhabited

namespace JsonLines

def unwritable : TransportError := .io "the file takes no text"

/-- A transport to a file, or else the files as they stand after the attempt to open it. -/
def ofPath (path : String) (files : Files) : Except (TransportError × Files) JsonLines :=
  match files.openForAppend path with
  | (some place, files) => .ok { files, spool := { place } }
  | (none, files) => .error (.io "the file cannot be opened", files)

def linePieces (e : Endpoint) (r : Record) : Json.Pieces :=
  Json.objectPieces (("topic", Json.quoted e.topic) ::
    ("owner", Json.naturalPiece e.owner.raw.toNat) :: r.members)

def line (e : Endpoint) (r : Record) : List Char :=
  (linePieces e r).flatten ++ ['\n']

def flush (t : JsonLines) : Except TransportError Unit × JsonLines :=
  match t.spool.flush t.files with
  | (true, spool, files) => (.ok (), { t with spool, files })
  | (false, spool, files) => (.error unwritable, { t with spool, files })

def create (owner : OwnerId) (topic : String) (t : JsonLines) :
    Except TransportError Endpoint × JsonLines :=
  (.ok ⟨owner, topic⟩, { t with live := t.live + 1 })

def destroy (_ : OwnerId) (_ : Endpoint) (t : JsonLines) : Except TransportError Unit × JsonLines :=
  match t.flush with
  | (.ok (), t) => (.ok (), { t with live := t.live - 1 })
  | failed => failed

def publish (e : Endpoint) (r : Record) (t : JsonLines) : Except TransportError Unit × JsonLines :=
  match t.spool.putAll ((linePieces e r).map utf8) t.files with
  | (false, spool, files) =>
    (.error (.serialization "the file takes no text"), { t with spool, files })
  | (true, spool, files) =>
    match spool.put (utf8 ['\n']) files with
    | (false, spool, files) => (.error unwritable, { t with spool, files })
    | (true, spool, files) => { t with spool, files }.flush

def close (t : JsonLines) : Files :=
  t.flush.2.files

instance : Transport JsonLines where
  create := create
  destroy := destroy
  publish := publish

end JsonLines

end LogRouting
