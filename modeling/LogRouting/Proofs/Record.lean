import LogRouting.Proofs.Json
import LogRouting.Proofs.Severity
import Mathlib.Data.Option.Basic
/-!
Records against the events they are made for and the text they are written as. A record is read back
from its text as it was, also from among members that no record has; of its event nothing is lost
but whether a location without any content was there at all, as long as the seconds of the time fit
into a stamp. Main statements: `json_round_trip`, `ofNanos_ordered` and `ofEvent_eq_iff`.
-/
namespace LogRouting

namespace Json

@[simp] theorem int32?_toInt (n : Int32) : (integer n.toInt).int32? = some n := by
  have hlow := n.le_toInt
  have hhigh := n.toInt_lt
  have hin : (integer n.toInt).integerIn? (-2147483648) 2147483647 = some n.toInt :=
    if_pos (by omega)
  rw [int32?, hin, Option.map_some, Int32.ofInt_toInt]

@[simp] theorem uint32?_toNat (n : UInt32) : (integer n.toNat).uint32? = some n := by
  have hlt := n.toNat_lt
  have hin : (integer n.toNat).integerIn? 0 4294967295 = some (n.toNat : Int) :=
    if_pos (by omega)
  rw [uint32?, hin, Option.map_some, Int.toNat_natCast, UInt32.ofNat_toNat]

@[simp] theorem uint64?_toNat (n : UInt64) : (integer n.toNat).uint64? = some n := by
  have hlt := n.toNat_lt
  have hin : (integer n.toNat).integerIn? 0 18446744073709551615 = some (n.toNat : Int) :=
    if_pos (by omega)
  rw [uint64?, hin, Option.map_some, Int.toNat_natCast, UInt64.ofNat_toNat]

end Json

open Json

namespace Stamp

def values (s : Stamp) : List (Option String × Json) :=
  [(some "sec", integer s.sec.toInt), (some "nanosec", integer s.nanosec.toNat)]

private theorem reads_pieces (s : Stamp) : Reads 4 s.pieces.flatten (object s.values true) :=
  reads_object (.cons ⟨rfl, reads_integer _⟩ (.cons ⟨rfl, reads_natural _⟩ .nil))

@[simp] private theorem ofJson?_values (s : Stamp) : ofJson? (object s.values true) = some s := by
  have hholds : (object s.values true).holds fields = true := by
    simp [holds, values, fields]
  have hsec : (object s.values true).field? 0 "sec" = some (integer s.sec.toInt) := rfl
  have hnanosec : (object s.values true).field? 1 "nanosec" = some (integer s.nanosec.toNat) := rfl
  rw [ofJson?, hholds, hsec, hnanosec]
  simp

end Stamp

namespace Record

def values (r : Record) : List (Option String × Json) :=
  [(some "stamp", object r.stamp.values true), (some "level", integer r.level.toInt),
    (some "name", string (some r.name)), (some "msg", string (some r.msg)),
    (some "file", string (some r.file)), (some "function", string (some r.function)),
    (some "line", integer r.line.toNat)]

theorem readsMembers (r : Record) : ReadsMembers 4 r.members r.values := by
  have hstring (s : String) : Reads 4 (quoted s).flatten (string (some s)) :=
    (reads_quoted s).mono (by decide)
  exact .cons ⟨rfl, r.stamp.reads_pieces⟩ <|
    .cons ⟨rfl, (reads_integer r.level.toInt).mono (by decide)⟩ <|
    .cons ⟨rfl, hstring r.name⟩ <| .cons ⟨rfl, hstring r.msg⟩ <|
    .cons ⟨rfl, hstring r.file⟩ <| .cons ⟨rfl, hstring r.function⟩ <|
    .cons ⟨rfl, (reads_natural r.line.toNat).mono (by decide)⟩ .nil

section
variable (r : Record) {before : List (Option String × Json)}
  (hbefore : ∀ m ∈ before, ∃ key ∉ fields, m.1 = some key)
include hbefore

private theorem field?_append (index : Nat) {name : String} (hname : name ∈ fields) :
    (object (before ++ r.values) true).field? index name = r.values.lookup (some name) := by
  have hnone : before.lookup (some name) = none := by
    rw [List.lookup_eq_none_iff]
    intro m hm
    obtain ⟨key, hkey, hm⟩ := hbefore m hm
    have hne : name ≠ key := fun h => hkey (h ▸ hname)
    simpa [hm] using hne
  rw [field?, List.lookup_append, hnone, Option.none_or]

private theorem holds_append : (object (before ++ r.values) true).holds fields = true := by
  have hother : (before.filterMap (·.1)).filter (fields.contains ·) = [] := by
    rw [List.filter_eq_nil_iff]
    intro key hkey
    obtain ⟨m, hm, hmkey⟩ := List.mem_filterMap.mp hkey
    obtain ⟨key', hother, hm'⟩ := hbefore m hm
    rw [hmkey, Option.some.injEq] at hm'
    simpa [hm'] using hother
  have hkeys : ((before ++ r.values).filterMap (·.1)).filter (fields.contains ·) = fields := by
    rw [List.filterMap_append, List.filter_append, hother]
    rfl
  have hsome : (before ++ r.values).all (·.1.isSome) = true := by
    rw [List.all_append, Bool.and_eq_true]
    refine ⟨List.all_eq_true.mpr fun m hm => ?_, rfl⟩
    obtain ⟨key, -, hkey⟩ := hbefore m hm
    rw [hkey, Option.isSome_some]
  rw [holds, hsome, hkeys]
  decide

@[simp] theorem ofJson?_append : ofJson? (object (before ++ r.values) true) = some r := by
  have hfield (index : Nat) (name : String) (hname : name ∈ fields) :=
    field?_append r hbefore index hname
  rw [ofJson?, holds_append r hbefore, hfield 0 "stamp" (by decide), hfield 1 "level" (by decide),
    hfield 2 "name" (by decide), hfield 3 "msg" (by decide), hfield 4 "file" (by decide),
    hfield 5 "function" (by decide), hfield 6 "line" (by decide)]
  simp [values, List.lookup_cons, text?]

end

theorem plain_toJson (r : Record) : ∀ c ∈ r.toJson, 0x20 ≤ c.toNat :=
  (plain_objectPieces r.plain_members).flatten

theorem parse_toJson (r : Record) {trail : List Char} (htrail : ∀ c ∈ trail, isBlank c = true) :
    Json.parse (r.toJson ++ trail) = (object r.values true, true) := by
  have hreads : Reads 12 r.toJson (object r.values true) := reads_object r.readsMembers
  have hlength : 23 ≤ r.toJson.length := length_le_objectPieces r.members
  exact parse_of_reads hreads (by omega) htrail

theorem parse?_toJson (r : Record) {trail : List Char} (htrail : ∀ c ∈ trail, isBlank c = true) :
    parse? (String.ofList (r.toJson ++ trail)) = some r := by
  have hnone : ∀ m ∈ ([] : List (Option String × Json)), ∃ key ∉ fields, m.1 = some key := by simp
  rw [parse?, String.toList_ofList, r.parse_toJson htrail]
  exact r.ofJson?_append hnone

/-- Whatever a record holds, its JSON is an object of its members, has no control character and so
no end of a line, and gives back the record, also with blanks after it. -/
theorem json_round_trip (r : Record) :
    (∀ c ∈ r.toJson, 0x20 ≤ c.toNat) ∧
      ∀ trail : List Char, (∀ c ∈ trail, isBlank c = true) →
        Json.parse (r.toJson ++ trail) = (object r.values true, true) ∧
          parse? (String.ofList (r.toJson ++ trail)) = some r :=
  ⟨r.plain_toJson, fun _ htrail => ⟨r.parse_toJson htrail, r.parse?_toJson htrail⟩⟩

/-- The lowest level, the latest nanosecond, and texts that are empty, that need every kind of
escape or none although they are not ASCII. -/
theorem json_round_trip_escapes :
    let r : Record := ⟨⟨-2147483648, 4294967295⟩, -1, "", "\"\\\x00\x1f\x7f\n😀", "/", "\t\r", 0⟩
    let text := "\x7b\"stamp\":\x7b\"sec\":-2147483648,\"nanosec\":4294967295\x7d,\"level\":-1," ++
      "\"name\":\"\",\"msg\":\"\\\"\\\\\\u0000\\u001f\x7f\\n😀\",\"file\":\"/\"," ++
      "\"function\":\"\\t\\r\",\"line\":0\x7d"
    String.ofList r.toJson = text ∧ (∀ c ∈ text.toList, 0x20 ≤ c.toNat) ∧
      (∀ c ∈ [' ', '\n', '\t'], isBlank c = true) ∧ parse? (text ++ " \n\t") = some r := by
  intro r text
  have htext : String.ofList r.toJson = text := by decide +kernel
  have hblank : ∀ c ∈ [' ', '\n', '\t'], isBlank c = true := by simp [isBlank]
  obtain ⟨hplain, hreads⟩ := json_round_trip r
  refine ⟨htext, ?_, hblank, ?_⟩
  · rw [← htext, String.toList_ofList]
    exact hplain
  · have hread := (hreads [' ', '\n', '\t'] hblank).2
    rw [String.ofList_append, htext] at hread
    exact hread

end Record

end LogRouting

namespace LogRouting.Stamp

/-! The order of stamps against the order of times -/

instance : LE Stamp where
  le s s' := s.sec < s'.sec ∨ s.sec = s'.sec ∧ s.nanosec ≤ s'.nanosec

instance (s s' : Stamp) : Decidable (s ≤ s') :=
  inferInstanceAs (Decidable (_ ∨ _))

def seconds (t : Int64) : Int :=
  t.toInt / nanosPerSec

def subseconds (t : Int64) : Int :=
  t.toInt % nanosPerSec

/-- Times in different seconds that are both at the same end of the range of seconds or beyond
it. -/
def Merged (a b : Int64) : Prop :=
  seconds a ≠ seconds b ∧
    (2147483647 ≤ seconds a ∧ 2147483647 ≤ seconds b ∨
      seconds a ≤ -2147483648 ∧ seconds b ≤ -2147483648)

instance (a b : Int64) : Decidable (Merged a b) :=
  inferInstanceAs (Decidable (_ ∧ _))

@[simp] private theorem toInt_saturate (n : Int) :
    (saturate n).toInt = max (-2147483648) (min n 2147483647) :=
  Int32.toInt_ofInt_of_le (by omega) (by omega)

theorem toInt_sec (t : Int64) :
    (ofNanos t).sec.toInt = max (-2147483648) (min (seconds t) 2147483647) :=
  toInt_saturate (seconds t)

theorem subseconds_bounds (t : Int64) : 0 ≤ subseconds t ∧ subseconds t < 1000000000 :=
  ⟨Int.emod_nonneg _ (by decide), Int.emod_lt_of_pos _ (by decide)⟩

@[simp] theorem toNat_nanosec (t : Int64) : ((ofNanos t).nanosec.toNat : Int) = subseconds t := by
  have hbounds := subseconds_bounds t
  have hsize : (subseconds t).toNat < UInt32.size := by
    unfold UInt32.size
    omega
  have hvalue : (ofNanos t).nanosec.toNat = (subseconds t).toNat :=
    UInt32.toNat_ofNat_of_lt' hsize
  omega

theorem toInt_eq (t : Int64) : t.toInt = seconds t * 1000000000 + subseconds t :=
  (Int.ediv_mul_add_emod t.toInt nanosPerSec).symm

variable {a b : Int64}

theorem le_iff : ofNanos a ≤ ofNanos b ↔
    max (-2147483648) (min (seconds a) 2147483647) <
        max (-2147483648) (min (seconds b) 2147483647) ∨
      max (-2147483648) (min (seconds a) 2147483647) =
          max (-2147483648) (min (seconds b) 2147483647) ∧
        subseconds a ≤ subseconds b := by
  have hle : ofNanos a ≤ ofNanos b ↔ (ofNanos a).sec < (ofNanos b).sec ∨
      (ofNanos a).sec = (ofNanos b).sec ∧ (ofNanos a).nanosec ≤ (ofNanos b).nanosec := Iff.rfl
  rw [hle, Int32.lt_iff_toInt_lt, ← Int32.toInt_inj, UInt32.le_iff_toNat_le, toInt_sec, toInt_sec,
    ← toNat_nanosec a, ← toNat_nanosec b, Int.ofNat_le]

private theorem seconds_mono (h : a ≤ b) : seconds a ≤ seconds b :=
  Int.ediv_le_ediv (by decide) (Int64.le_iff_toInt_le.mp h)

/-- A later time has seconds that are no less, and a stamp that is no less unless the two times are
merged. Merged times have the same seconds, so that their stamps stand as their nanoseconds do. -/
theorem ofNanos_ordered (h : a ≤ b) :
    (ofNanos a).sec ≤ (ofNanos b).sec ∧
    (¬Merged a b → ofNanos a ≤ ofNanos b) ∧
    (Merged a b → (ofNanos a).sec = (ofNanos b).sec ∧
      (ofNanos a ≤ ofNanos b ↔ subseconds a ≤ subseconds b)) := by
  have hseconds := seconds_mono h
  have htimes := Int64.le_iff_toInt_le.mp h
  rw [toInt_eq a, toInt_eq b] at htimes
  rw [Int32.le_iff_toInt_le, ← Int32.toInt_inj, le_iff, toInt_sec, toInt_sec]
  unfold Merged
  -- seconds that saturate to the same are the same, or else the times are merged
  exact ⟨by omega, fun hapart => by omega, fun hmerged => by omega⟩

theorem ofNanos_ordered_below :
    (-2147483648000000001 : Int64) ≤ -1 ∧ ¬Merged (-2147483648000000001) (-1) ∧
      ofNanos (-2147483648000000001) ≤ ofNanos (-1) :=
  ⟨by decide, by decide, (ofNanos_ordered (by decide)).2.1 (by decide)⟩

/-- One nanosecond after the last stamp of all there is an earlier one. -/
theorem ofNanos_runs_backwards :
    (2147483647999999999 : Int64) ≤ 2147483648000000000 ∧
      ofNanos 2147483647999999999 = ⟨2147483647, 999999999⟩ ∧
      ofNanos 2147483648000000000 = ⟨2147483647, 0⟩ ∧
      ¬ofNanos 2147483647999999999 ≤ ofNanos 2147483648000000000 := by
  decide

end LogRouting.Stamp

namespace LogRouting

/-! The event of a record -/

namespace Stamp

def InRange (t : Int64) : Prop :=
  Severity.Fits (seconds t)

instance (t : Int64) : Decidable (InRange t) :=
  inferInstanceAs (Decidable (Severity.Fits _))

def total (s : Stamp) : Int :=
  s.sec.toInt * 1000000000 + s.nanosec.toNat

variable {s t : Int64}

@[simp] theorem toInt_sec_of_inRange (h : InRange t) : (ofNanos t).sec.toInt = seconds t := by
  obtain ⟨hlow, hhigh⟩ := h
  rw [toInt_sec, Int.min_eq_left hhigh, Int.max_eq_right hlow]

@[simp] theorem total_ofNanos (h : InRange t) : (ofNanos t).total = t.toInt := by
  rw [total, toInt_sec_of_inRange h, toNat_nanosec, ← toInt_eq]

@[simp] theorem ofNanos_inj (hs : InRange s) (ht : InRange t) : ofNanos s = ofNanos t ↔ s = t := by
  refine ⟨fun h => ?_, fun h => congrArg ofNanos h⟩
  have htotal := congrArg total h
  rw [total_ofNanos hs, total_ofNanos ht] at htotal
  exact Int64.toInt_inj.mp htotal

end Stamp

@[simp] theorem Severity.level_inj {v w : Severity} : v.level = w.level ↔ v = w := by
  rw [← ofLevel?_eq_some_iff, ofLevel?_eq_some_iff.mpr rfl, Option.some.injEq, eq_comm]

attribute [ext] Location

namespace Event

def place (e : Event) : Location :=
  e.location.getD ⟨"", "", 0⟩

/-- The same event, but for a location without any content, which may be there or not. -/
structure Alike (e e' : Event) : Prop where
  severity : e.severity = e'.severity
  logger : e.logger = e'.logger
  nanos : e.nanos = e'.nanos
  message : e.message = e'.message
  place : e.place = e'.place

end Event

namespace Record

variable {e e' : Event}

theorem ofEvent_eq (e : Event) : ofEvent e =
    ⟨.ofNanos e.nanos, e.severity.level, e.logger, e.message, e.place.file, e.place.function,
      e.place.line⟩ := by
  unfold ofEvent Event.place
  cases e.location <;> rfl

@[simp] theorem severity?_ofEvent (e : Event) : (ofEvent e).severity? = some e.severity :=
  Severity.ofLevel?_eq_some_iff.mpr rfl

theorem ofEvent_inj (he : Stamp.InRange e.nanos) (he' : Stamp.InRange e'.nanos) :
    ofEvent e = ofEvent e' ↔ e.Alike e' := by
  rw [ofEvent_eq, ofEvent_eq]
  constructor
  · intro h
    obtain ⟨hstamp, hlevel, hlogger, hmessage, hfile, hfunction, hline⟩ := Record.mk.inj h
    exact ⟨Severity.level_inj.mp hlevel, hlogger, (Stamp.ofNanos_inj he he').mp hstamp, hmessage,
      Location.ext hfile hfunction hline⟩
  · rintro ⟨hseverity, hlogger, hnanos, hmessage, hplace⟩
    rw [hseverity, hlogger, hnanos, hmessage, hplace]

theorem toJson_injective : Function.Injective toJson := by
  intro r r' h
  have hread (r : Record) : parse? (String.ofList r.toJson) = some r := by
    have hnone : ∀ c ∈ ([] : List Char), Json.isBlank c = true := by simp
    simpa using r.parse?_toJson hnone
  have hparse := congrArg (fun text => parse? (String.ofList text)) h
  simpa only [hread, Option.some.injEq] using hparse

/-- Events are alike if their records are the same, or the JSON of their records. The stamp gives
the time back to the nanosecond, and the level the severity. -/
theorem ofEvent_eq_iff (he : Stamp.InRange e.nanos) (he' : Stamp.InRange e'.nanos) :
    (ofEvent e = ofEvent e' ↔ e.Alike e') ∧
    ((ofEvent e).toJson = (ofEvent e').toJson ↔ e.Alike e') ∧
    (ofEvent e).stamp.sec.toInt * 1000000000 + (ofEvent e).stamp.nanosec.toNat = e.nanos.toInt ∧
    (ofEvent e).stamp.nanosec.toNat < 1000000000 ∧
    (ofEvent e).severity? = some e.severity := by
  refine ⟨ofEvent_inj he he', ?_, Stamp.total_ofNanos he, ?_, severity?_ofEvent e⟩
  · rw [toJson_injective.eq_iff, ofEvent_inj he he']
  · have hnanosec : ((ofEvent e).stamp.nanosec.toNat : Int) = Stamp.subseconds e.nanos :=
      Stamp.toNat_nanosec e.nanos
    have hbounds := Stamp.subseconds_bounds e.nanos
    omega

/-- The last nanosecond before the epoch, with a location without any content and with none, and
the nanosecond one second before. -/
theorem ofEvent_eq_iff_before_epoch :
    let e : Event := ⟨.warn, "robot.nav", -1, "\"low\"\n", none⟩
    let blank : Event := { e with location := some ⟨"", "", 0⟩ }
    let earlier : Event := { e with nanos := -1000000001 }
    Stamp.InRange e.nanos ∧ Stamp.InRange blank.nanos ∧ Stamp.InRange earlier.nanos ∧
      (ofEvent e).toJson = (ofEvent blank).toJson ∧
      (ofEvent e).toJson ≠ (ofEvent earlier).toJson ∧
      (ofEvent earlier).stamp = ⟨-2, 999999999⟩ ∧
      (ofEvent earlier).stamp.sec.toInt * 1000000000 +
        (ofEvent earlier).stamp.nanosec.toNat = -1000000001 := by
  intro e blank earlier
  have he : Stamp.InRange e.nanos := by decide
  have hearlier : Stamp.InRange earlier.nanos := by decide
  refine ⟨he, he, hearlier, (ofEvent_eq_iff he he).2.1.mpr ⟨rfl, rfl, rfl, rfl, rfl⟩, ?_, by decide,
    (ofEvent_eq_iff hearlier he).2.2.1⟩
  intro h
  have halike := (ofEvent_eq_iff he hearlier).2.1.mp h
  exact absurd halike.nanos (by decide)

end Record

end LogRouting
