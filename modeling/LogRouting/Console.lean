import LogRouting.Dispatch
/-!
The console writes every event as one line, in one of three formats, and never fails: what cannot
be written is lost. Its writer takes bytes, perhaps fewer at a time than it is offered, and may be
interrupted.
-/
namespace LogRouting

/-- What becomes of an offer of bytes: some are taken, perhaps none, or the writer was interrupted
and is to be offered the same bytes again, or it failed. -/
inductive Answer where
  | took (n : Nat)
  | interrupted
  | failed
  deriving DecidableEq, Repr, Inhabited

class Writer (W : Type) where
  write : (bytes : List UInt8) → W → Answer × W
  /-- Whether the interruptions end when the same bytes are offered again and again. -/
  settles (bytes : List UInt8) (w : W) :
    Decidable (Acc (fun next now => write bytes now = (.interrupted, next)) w)

namespace Writer

variable {W : Type} [Writer W]

def Interrupts (bytes : List UInt8) (next now : W) : Prop :=
  write bytes now = (.interrupted, next)

def Ends (bytes : List UInt8) (w : W) : Prop :=
  Acc (Interrupts bytes) w

instance (bytes : List UInt8) (w : W) : Decidable (Ends bytes w) :=
  settles bytes w

def settled (bytes : List UInt8) (w : W) (h : Ends bytes w) : Answer × W :=
  match hw : write bytes w with
  | (.interrupted, next) => settled bytes next (h.inv hw)
  | answered => answered
termination_by (⟨w, h⟩ : { w // Acc (Interrupts bytes) w })
decreasing_by exact hw

def settle (bytes : List UInt8) (w : W) : Option (Answer × W) :=
  if h : Ends bytes w then some (settled bytes w h) else none

/-- Offers bytes until all are taken. A write that takes nothing is a failure. -/
def writeAll (bytes : List UInt8) (w : W) : Option (Bool × W) :=
  match bytes with
  | [] => some (true, w)
  | b :: bs =>
    match settle (b :: bs) w with
    | some (.took (n + 1), w) => writeAll (bs.drop n) w
    | some (_, w) => some (false, w)
    | none => none
termination_by bytes.length
decreasing_by simp only [List.length_drop, List.length_cons]; omega

theorem ends_of_answered {bytes : List UInt8} {w : W}
    (h : (write bytes w).1 ≠ .interrupted) : Ends bytes w :=
  ⟨w, fun _ hnext => absurd (congrArg Prod.fst hnext) h⟩

end Writer

/-- Writers that are not interrupted for ever. -/
class Steady (W : Type) [Writer W] : Prop where
  ends (bytes : List UInt8) (w : W) : Writer.Ends bytes w

theorem Writer.isSome_writeAll {W : Type} [Writer W] [Steady W] (bytes : List UInt8) (w : W) :
    (writeAll bytes w).isSome := by
  fun_induction writeAll bytes w with
  | case1 | case3 => rfl
  | case2 w b bytes n w' hsettle ih => exact ih
  | case4 w b bytes hnever =>
    rw [settle, dif_pos (Steady.ends (b :: bytes) w)] at hnever
    cases hnever

structure Transcript where
  taken : Array UInt8 := #[]
  deriving DecidableEq, Inhabited

instance : Writer Transcript where
  write bytes t := (.took bytes.length, ⟨t.taken ++ bytes⟩)
  settles _ t := .isTrue ⟨t, fun _ h => Answer.noConfusion (congrArg Prod.fst h)⟩

instance : Steady Transcript where
  ends _ _ := Writer.ends_of_answered Answer.noConfusion

/-- Has room for `left` more bytes. A write that does not fit is cut short, and the next one
fails. -/
structure Room where
  left : Nat
  taken : Array UInt8 := #[]
  deriving DecidableEq, Inhabited

namespace Room

def write (bytes : List UInt8) (r : Room) : Answer × Room :=
  if r.left = 0 then (.failed, r)
  else
    let fitting := bytes.take r.left
    (.took fitting.length, ⟨r.left - fitting.length, r.taken ++ fitting⟩)

theorem write_ne_interrupted (bytes : List UInt8) (r : Room) :
    (r.write bytes).1 ≠ .interrupted := by
  unfold write
  split
  · exact Answer.noConfusion
  · exact Answer.noConfusion

instance : Writer Room where
  write := write
  settles bytes r := .isTrue
    ⟨r, fun _ h => absurd (congrArg Prod.fst h) (r.write_ne_interrupted bytes)⟩

instance : Steady Room where
  ends bytes r := Writer.ends_of_answered (r.write_ne_interrupted bytes)

end Room

inductive ConsoleFormat where
  | pretty
  | json
  | raw
  deriving DecidableEq, Repr, Inhabited

namespace ConsoleFormat

/-- A format by its name in any case; any other text means `pretty`. -/
def ofText (s : String) : ConsoleFormat :=
  let w := String.ofList (Text.lowercase s.toList)
  if w = "json" then json else if w = "raw" then raw else pretty

def prettyLine (e : Event) : List Char :=
  '[' :: e.severity.label.toList ++ "] [".toList ++ (Stamp.ofNanos e.nanos).text ++
    "] [".toList ++ e.logger.toList ++ "]: ".toList ++ e.message.toList ++
    match e.location with
    | none => []
    | some l => " (".toList ++ l.file.toList ++ ':' :: Text.numeral l.line.toNat ++
        " in ".toList ++ l.function.toList ++ [')']

def render : ConsoleFormat → Event → List Char
  | pretty, e => prettyLine e
  | json, e => (Record.ofEvent e).toJson
  | raw, e => e.message.toList

end ConsoleFormat

class Display (C : Type) where
  display : Event → C → Completion × C

structure Console (W : Type) where
  format : ConsoleFormat
  writer : W

namespace Console

variable {W : Type} [Writer W]

def name : String := "console"

def writeLine (line : List Char) (w : W) : Option (Bool × W) :=
  match Writer.writeAll (utf8 line) w with
  | some (true, w) => Writer.writeAll (utf8 ['\n']) w
  | answered => answered

/-- There is no result if the writer is interrupted for ever. -/
def handle (e : Event) (c : Console W) : Option (Console W) :=
  (writeLine (c.format.render e) c.writer).map fun (_, writer) => { c with writer }

theorem isSome_handle [Steady W] (e : Event) (c : Console W) : (c.handle e).isSome := by
  rw [handle, Option.isSome_map, writeLine]
  split
  · exact Writer.isSome_writeAll ..
  · exact Writer.isSome_writeAll ..

instance [Steady W] : Display (Console W) where
  display e c := (.returned, (c.handle e).get (c.isSome_handle e))

end Console

end LogRouting
