/-!
TOML values, and the tables that a document grows statement by statement. Where a table came from
decides what may still be added to it.
-/
namespace LogRouting.Toml

/-- A table is `implied` as long as only headers of tables inside it have named it, `dotted` if
dotted keys made it, and `inline` ones are finished. -/
inductive Origin where
  | header
  | implied
  | dotted
  | inline
  deriving DecidableEq, Repr

/-- Floats, dates and times are told apart from the other types and nothing more. `tables` is an
array of tables made by headers; the last of them is the open one. -/
inductive Value where
  | string (s : String)
  | integer (n : Int)
  | float
  | boolean (b : Bool)
  | datetime
  | array (items : List Value)
  | table (origin : Origin) (entries : List (String × Value))
  | tables (elements : List (List (String × Value)))
  deriving Repr, Inhabited

abbrev Entries := List (String × Value)

namespace Entries

def replace (es : Entries) (key : String) (v : Value) : Entries :=
  es.map fun e => if e.1 = key then (key, v) else e

def remove (es : Entries) (key : String) : Entries :=
  es.filter (·.1 ≠ key)

/-- Applies `edit` to the table at the end of a path, where missing tables are made on the way.
A dotted path may only pass through tables that no header has defined. -/
def modifyAt {α : Type} (dotted : Bool) (edit : Origin → Entries → Option (α × Entries)) :
    List String → Origin → Entries → Option (α × Entries)
  | [], origin, es => edit origin es
  | key :: path, _, es =>
    match es.lookup key with
    | none => do
      let origin := if dotted then Origin.dotted else .implied
      let (a, sub) ← modifyAt dotted edit path origin []
      some (a, es ++ [(key, .table origin sub)])
    | some (.table .inline _) => none
    | some (.table origin sub) => do
      if dotted ∧ origin = .header then none
      let (a, sub) ← modifyAt dotted edit path origin sub
      some (a, es.replace key (.table origin sub))
    | some (.tables elements) => do
      let last ← elements.getLast?
      let (a, sub) ← modifyAt dotted edit path .header last
      some (a, es.replace key (.tables (elements.dropLast ++ [sub])))
    | some _ => none

def insert (origin : Origin) (es : Entries) (parents : List String) (key : String) (v : Value) :
    Option Entries :=
  (modifyAt true (fun o es =>
    if (o = .dotted ↔ parents = []) ∨ (es.lookup key).isSome then none
    else some ((), es ++ [(key, v)])) parents origin es).map (·.2)

/-- Takes the table that a header opens out of its place. It must not have been defined before. -/
def detach (es : Entries) (parents : List String) (key : String) : Option (Entries × Entries) :=
  modifyAt false (fun _ es =>
    match es.lookup key with
    | none => some ([], es)
    | some (.table .implied sub) => some (sub, es.remove key)
    | some _ => none) parents .header es

def attach (es : Entries) (parents : List String) (key : String) (sub : Entries) :
    Option Entries :=
  (modifyAt false (fun _ es =>
    if (es.lookup key).isSome then none else some ((), es ++ [(key, .table .header sub)]))
    parents .header es).map (·.2)

/-- Makes sure that an array of tables stands at the path. -/
def openArray (es : Entries) (parents : List String) (key : String) : Option Entries :=
  (modifyAt false (fun _ es =>
    match es.lookup key with
    | none => some ((), es ++ [(key, .tables [])])
    | some (.tables _) => some ((), es)
    | some _ => none) parents .header es).map (·.2)

def pushArray (es : Entries) (parents : List String) (key : String) (sub : Entries) :
    Option Entries :=
  (modifyAt false (fun _ es =>
    match es.lookup key with
    | some (.tables elements) => some ((), es.replace key (.tables (elements ++ [sub])))
    | _ => none) parents .header es).map (·.2)

end Entries

inductive Statement where
  | pair (parents : List String) (key : String) (v : Value)
  | header (parents : List String) (key : String)
  | arrayHeader (parents : List String) (key : String)
  deriving Repr

/-- The table that pairs go into. Its place in the document is taken when it is finished. -/
inductive Section where
  | root
  | table (parents : List String) (key : String)
  | element (parents : List String) (key : String)

structure Document where
  finished : Entries
  current : Entries
  place : Section

namespace Document

def empty : Document where
  finished := []
  current := []
  place := .root

def finish (d : Document) : Option Entries :=
  match d.place with
  | .root => some d.current
  | .table parents key => d.finished.attach parents key d.current
  | .element parents key => d.finished.pushArray parents key d.current

def step (d : Document) : Statement → Option Document
  | .pair parents key v => do
    let current ← Entries.insert .header d.current parents key v
    some { d with current }
  | .header parents key => do
    let (current, finished) ← (← d.finish).detach parents key
    some { finished, current, place := .table parents key }
  | .arrayHeader parents key => do
    let finished ← (← d.finish).openArray parents key
    some { finished, current := [], place := .element parents key }

def build? (statements : List Statement) : Option Entries := do
  (← statements.foldlM step empty).finish

end Document

end LogRouting.Toml
