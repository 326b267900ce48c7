import LogRouting.Error
import LogRouting.Record
/-!
Sinks take events. Whatever a sink does to its devices `D` it reports no failure; an exception may
leave it, but not before it is done. A chain hands every event to each of its sinks, in order, and
an output is the one place that all events go through.
-/
namespace LogRouting

inductive Completion where
  | returned
  | raised
  deriving DecidableEq, Repr, Inhabited

class Named (S : Type) where
  name : S → String

class Sink (S D : Type) where
  handle : S → Event → D → Completion × D

/-! Chains -/

namespace Chain

def capacity : Nat := 4

end Chain

structure Chain (S : Type) where
  sinks : List S := []
  length_le : sinks.length ≤ Chain.capacity := by exact Nat.zero_le _
  deriving DecidableEq, Repr

instance {S : Type} : Inhabited (Chain S) := ⟨{}⟩

namespace Chain

variable {S D : Type}

def name : String := "dispatch"

def push (s : S) (c : Chain S) : Except LogError (Chain S) :=
  if h : c.sinks.length < capacity then .ok ⟨c.sinks ++ [s], by simpa [Nat.succ_le_iff] using h⟩
  else .error (.chainFull capacity)

def ofList (sinks : List S) : Chain S :=
  ⟨sinks.take capacity, List.length_take_le ..⟩

variable [Sink S D]

def dispatch (c : Chain S) (e : Event) (d : D) : D :=
  c.sinks.foldl (fun d s => (Sink.handle s e d).2) d

instance : Sink (Chain S) D where
  handle c e d := (.returned, c.dispatch e d)

instance : Named (Chain S) where
  name _ := name

end Chain

/-! The threshold, and the handler behind it -/

structure Output (H : Type) where
  handler : H
  threshold : Severity := .unset
  deriving DecidableEq, Repr

namespace Output

variable {H D : Type}

/-- Puts a new handler in and gives the old one back. -/
def install (handler : H) (o : Output H) : H × Output H :=
  (o.handler, { o with handler })

def isEnabledFor (o : Output H) (s : Severity) : Bool :=
  o.threshold ≤ s

def log [Sink H D] (o : Output H) (e : Event) (d : D) : Completion × D :=
  if o.isEnabledFor e.severity then Sink.handle o.handler e d else (.returned, d)

end Output

/-! What came of bringing up each subsystem -/

inductive Subsystem where
  | console
  | registry
  | external
  deriving DecidableEq, Repr, Inhabited

def Subsystem.name : Subsystem → String
  | console => "console"
  | registry => "registry"
  | external => "external"

/-- One outcome for every subsystem that was to come up, in the order of the attempts. -/
structure Report where
  outcomes : List (Subsystem × Status) := []
  deriving DecidableEq, Repr, Inhabited

namespace Report

def statusOf (r : Report) (s : Subsystem) : Option Status :=
  r.outcomes.lookup s

def failures (r : Report) : List (Subsystem × Status) :=
  r.outcomes.filter fun o => !o.2.isOk

def isClean (r : Report) : Bool :=
  r.outcomes.all (·.2.isOk)

end Report

end LogRouting
