import LogRouting.Dispatch
/-!
A sink that an exception leaves keeps no event from the other sinks of its chain, nor from itself
the next time. The calls are noted by the sinks when they begin, so that one that ends in an
exception is noted as well. Main statement: `calls_of_chain`.
-/
namespace LogRouting

/-! Runs of a sink -/

namespace Sink

variable {S D : Type} [Sink S D]

def feed (s : S) : List Event → D → List Completion × D
  | [], d => ([], d)
  | e :: es, d =>
    match Sink.handle s e d with
    | (.raised, d) => ([.raised], d)
    | (.returned, d) =>
      let (completions, d) := feed s es d
      (.returned :: completions, d)

end Sink

/-- A sink whose calls are noted, each as the sink and the event. -/
structure Noted (S : Type) where
  sink : S

instance {S D : Type} [Sink S D] : Sink (Noted S) (List (S × Event) × D) where
  handle s e d :=
    let (completion, devices) := Sink.handle s.sink e d.2
    (completion, d.1 ++ [(s.sink, e)], devices)

namespace Chain

variable {S D : Type}

/-- An attempt to add a sink to a chain. If there is no room the chain stays with the caller who
`keeps` it, and is lost to one who gave it away. -/
structure Addition (S : Type) where
  sink : S
  keeps : Bool
  deriving DecidableEq, Repr

def attempt (c : Chain S) (a : Addition S) : Except LogError Unit × Option (Chain S) :=
  match c.push a.sink with
  | .ok c => (.ok (), some c)
  | .error e => (.error e, if a.keeps then some c else none)

def attempts (c : Chain S) : List (Addition S) → List (Except LogError Unit) × Option (Chain S)
  | [] => ([], some c)
  | a :: as =>
    match c.attempt a with
    | (result, none) => ([result], none)
    | (result, some c) =>
      let (results, last) := c.attempts as
      (result :: results, last)

def noted (c : Chain S) : Chain (Noted S) :=
  ⟨c.sinks.map Noted.mk, by simpa using c.length_le⟩

/-! Building a chain -/

private theorem attempt_of_room {c : Chain S} (h : c.sinks.length < capacity) (a : Addition S) :
    ∃ c', c.attempt a = (.ok (), some c') ∧ c'.sinks = c.sinks ++ [a.sink] := by
  simp only [attempt, push, dif_pos h]
  exact ⟨_, rfl, rfl⟩

@[simp] theorem attempt_of_full {c : Chain S} (h : capacity ≤ c.sinks.length) (a : Addition S) :
    c.attempt a = (.error (.chainFull capacity), if a.keeps then some c else none) := by
  simp only [attempt, push, dif_neg (Nat.not_lt.mpr h)]

def reports (room : Nat) (as : List (Addition S)) : List (Except LogError Unit) :=
  (as.take room).map (fun _ => .ok ()) ++
    (as.drop room).map (fun _ => .error (.chainFull capacity))

structure Built (c : Chain S) (room : Nat) (as : List (Addition S))
    (results : List (Except LogError Unit)) (last : Option (Chain S)) : Prop where
  reported : results <+: reports room as
  lost : last = none ↔ ∃ a ∈ as.drop room, a.keeps = false
  kept : ∀ c', last = some c' →
    results.length = as.length ∧ c'.sinks = c.sinks ++ (as.map (·.sink)).take room

theorem Built.full {c : Chain S} {a : Addition S} {as : List (Addition S)}
    {results : List (Except LogError Unit)} {last : Option (Chain S)} (ha : a.keeps = true)
    (h : Built c 0 as results last) :
    Built c 0 (a :: as) (.error (.chainFull capacity) :: results) last where
  reported := by simpa [reports] using h.reported
  lost := by simpa [ha] using h.lost
  kept c' hc := by simpa using h.kept c' hc

theorem Built.room {c c' : Chain S} {room : Nat} {a : Addition S} {as : List (Addition S)}
    {results : List (Except LogError Unit)} {last : Option (Chain S)}
    (hc : c'.sinks = c.sinks ++ [a.sink]) (h : Built c' room as results last) :
    Built c (room + 1) (a :: as) (.ok () :: results) last where
  reported := by simpa [reports] using h.reported
  lost := by simpa using h.lost
  kept c'' hc'' := by simpa [hc] using h.kept c'' hc''

theorem built_attempts (c : Chain S) {room : Nat} (hroom : c.sinks.length + room = capacity)
    (as : List (Addition S)) : Built c room as (c.attempts as).1 (c.attempts as).2 := by
  induction as generalizing c room with
  | nil => exact ⟨by simp [attempts, reports], by simp [attempts], by simp [attempts]⟩
  | cons a as ih =>
    cases room with
    | zero =>
      have hfull := attempt_of_full (c := c) (by omega) a
      rw [attempts, hfull]
      cases hkeeps : a.keeps with
      | true => exact (ih c hroom).full hkeeps
      | false => exact ⟨by simp [reports], by simp [hkeeps], by simp⟩
    | succ room =>
      obtain ⟨c', hattempt, hsinks⟩ := attempt_of_room (c := c) (by omega) a
      have hroom' : c'.sinks.length + room = capacity := by simp [hsinks]; omega
      rw [attempts, hattempt]
      exact (ih c' hroom').room hsinks

/-! Handing events to a chain -/

variable [Sink S D]

private theorem foldl_noted (sinks : List S) (e : Event) (calls : List (S × Event)) (d : D) :
    (sinks.map Noted.mk).foldl (fun d s => (Sink.handle s e d).2) (calls, d) =
      (calls ++ sinks.map (·, e), sinks.foldl (fun d s => (Sink.handle s e d).2) d) := by
  induction sinks generalizing calls d with
  | nil => simp
  | cons s sinks ih =>
    have hcall : (Sink.handle (Noted.mk s) e (calls, d)).2 =
        (calls ++ [(s, e)], (Sink.handle s e d).2) := rfl
    rw [List.map_cons, List.foldl_cons, hcall, ih]
    simp

@[simp] private theorem dispatch_noted (c : Chain S) (e : Event) (calls : List (S × Event))
    (d : D) :
    c.noted.dispatch e (calls, d) = (calls ++ c.sinks.map (·, e), c.dispatch e d) :=
  foldl_noted c.sinks e calls d

/-- No exception leaves a chain, so that it is handed all events. -/
theorem feed_eq (c : Chain S) (es : List Event) (d : D) :
    Sink.feed c es d = (es.map fun _ => .returned, es.foldl (fun d e => c.dispatch e d) d) := by
  induction es generalizing d with
  | nil => rfl
  | cons e es ih =>
    have hhandle : Sink.handle c e d = (.returned, c.dispatch e d) := rfl
    rw [Sink.feed, hhandle]
    dsimp only
    rw [ih]
    rfl

@[simp] theorem feed_noted (c : Chain S) (es : List Event) (calls : List (S × Event)) (d : D) :
    Sink.feed c.noted es (calls, d) =
      (es.map fun _ => .returned, calls ++ es.flatMap fun e => c.sinks.map (·, e),
        (Sink.feed c es d).2) := by
  simp only [feed_eq]
  congr 1
  induction es generalizing calls d with
  | nil => simp
  | cons e es ih =>
    rw [List.foldl_cons, dispatch_noted, ih]
    simp

/-- However a chain is built, it holds the first four sinks that were to be added: an attempt to
add one more is turned away, and a chain that is kept stays as it was. Whatever the sinks do, and
whichever exceptions leave them, every call to the chain returns, and the sinks are called with
each event in turn, all of them in order and once. -/
theorem calls_of_chain (as : List (Addition S)) (es : List Event) (d : D) :
    let (results, last) := attempts {} as
    (∀ (c : Chain S) (a : Addition S), 4 ≤ c.sinks.length →
      c.attempt a = (.error (.chainFull 4), if a.keeps then some c else none)) ∧
    results <+: (as.take 4).map (fun _ => .ok ()) ++
      (as.drop 4).map (fun _ => .error (.chainFull 4)) ∧
    (last = none ↔ ∃ a ∈ as.drop 4, a.keeps = false) ∧
    ∀ c, last = some c →
      results.length = as.length ∧ c.sinks = (as.map (·.sink)).take 4 ∧
      Sink.feed c.noted es (([] : List (S × Event)), d) =
        (es.map fun _ => .returned, es.flatMap fun e => c.sinks.map (·, e),
          (Sink.feed c es d).2) ∧
      ∀ (D' : Type) (_ : Sink S D') (d' : D'),
        (Sink.feed c.noted es (([] : List (S × Event)), d')).2.1 =
          (Sink.feed c.noted es (([] : List (S × Event)), d)).2.1 := by
  have hbuilt : Built {} 4 as (attempts {} as).1 (attempts {} as).2 := built_attempts {} rfl as
  refine ⟨fun c a hfull => attempt_of_full hfull a, hbuilt.reported, hbuilt.lost,
    fun c hc => ?_⟩
  obtain ⟨hlength, hsinks⟩ := hbuilt.kept c hc
  refine ⟨hlength, hsinks, feed_noted c es [] d, fun D' _ d' => ?_⟩
  rw [feed_noted, feed_noted]

/-- A chain of four sinks, the second and the last of which raise at every event. A fifth one was
turned away, and so would another be. -/
theorem calls_of_chain_past_exceptions :
    letI : Sink Bool Unit := ⟨fun raises _ d => (if raises then .raised else .returned, d)⟩
    let as : List (Addition Bool) :=
      [⟨false, true⟩, ⟨true, false⟩, ⟨false, true⟩, ⟨true, true⟩, ⟨false, true⟩]
    let c : Chain Bool := ⟨[false, true, false, true], by decide⟩
    let hello : Event := ⟨.info, "robot.nav", 0, "hello", none⟩
    let bye : Event := ⟨.warn, "robot.arm", 7, "bye", none⟩
    attempts {} as = ([.ok (), .ok (), .ok (), .ok (), .error (.chainFull 4)], some c) ∧
      c.attempt ⟨true, false⟩ = (.error (.chainFull 4), none) ∧
      (Sink.feed c.noted [hello, bye] (([] : List (Bool × Event)), ())).2.1 =
        [(false, hello), (true, hello), (false, hello), (true, hello),
          (false, bye), (true, bye), (false, bye), (true, bye)] := by
  let _ : Sink Bool Unit := ⟨fun raises _ d => (if raises then .raised else .returned, d)⟩
  intro as c hello bye
  obtain ⟨hfull, -, -, hkept⟩ := calls_of_chain as [hello, bye] ()
  obtain ⟨-, -, hcalls, -⟩ := hkept c rfl
  exact ⟨rfl, hfull c ⟨true, false⟩ (by decide), by rw [hcalls]; rfl⟩

/-- A full chain that was given away is lost with the sink that did not fit. -/
theorem rejected_addition_loses_chain :
    let gift (sink : Nat) : Addition Nat := ⟨sink, false⟩
    let c : Chain Nat := ⟨[0, 1, 2, 3], by decide⟩
    attempts {} [gift 0, gift 1, gift 2, gift 3] =
        ([.ok (), .ok (), .ok (), .ok ()], some c) ∧
      attempts {} [gift 0, gift 1, gift 2, gift 3, gift 4] =
        ([.ok (), .ok (), .ok (), .ok (), .error (.chainFull 4)], none) ∧
      (c.attempt (gift 4)).2 ≠ some c :=
  ⟨rfl, rfl, by decide⟩

end Chain

end LogRouting
