import LogRouting.Proofs.Record
import LogRouting.Proofs.Relay.Input
import LogRouting.Proofs.Transport.Appending
/-!
The lines of a transport that appends to a file. A line is read back as its record and its endpoint;
after endpoints were created, published on and destroyed in any order the file holds what it held
before, and then one line for each record; and a tail without a newline, as a crash leaves it, takes
the first record to itself. Main statements: `file_of_run` and `records_after_tail`.
-/
namespace LogRouting.JsonLines

/-! One line -/

open Json Relay

def body (e : Endpoint) (r : Record) : List Char :=
  (linePieces e r).flatten

def bodyBytes (x : Endpoint × Record) : List UInt8 :=
  utf8 (body x.1 x.2)

def values (e : Endpoint) (r : Record) : List (Option String × Json) :=
  [(some "topic", string (some e.topic)), (some "owner", integer e.owner.raw.toNat)] ++ r.values

/-- A line has one newline, at its end. As JSON it is an object with the topic and the owner of an
endpoint, and as a record it is that record. -/
structure LineOf (e : Endpoint) (r : Record) (line : List Char) : Prop where
  ends : ∃ text, utf8 line = text ++ [newline] ∧ newline ∉ text
  object : ∃ ms, Json.parse line = (object ms true, true) ∧ (ms.map (·.1)).Nodup ∧
    ms.lookup (some "topic") = some (string (some e.topic)) ∧
    ms.lookup (some "owner") = some (integer e.owner.raw.toNat)
  record : Record.parse? (String.ofList line) = some r

def read? (bytes : List UInt8) : Option (Endpoint × Record) := do
  let text ← decode? bytes
  let (v, true) := Json.parse text.toList | none
  let topic ← (← v.field? 0 "topic").text?
  let owner ← (← v.field? 1 "owner").uint64?
  let r ← Record.parse? text
  some (⟨⟨owner⟩, topic⟩, r)

variable (e : Endpoint) (r : Record)

@[simp] theorem lookup_topic :
    (values e r).lookup (some "topic") = some (string (some e.topic)) := by
  simp [values]

@[simp] theorem lookup_owner :
    (values e r).lookup (some "owner") = some (integer e.owner.raw.toNat) := by
  simp [values, List.lookup_cons]

@[simp] theorem parse_body {trail : List Char} (htrail : ∀ c ∈ trail, isBlank c = true) :
    Json.parse (body e r ++ trail) = (object (values e r) true, true) := by
  have hmembers : ReadsMembers 4 (("topic", quoted e.topic) ::
      ("owner", naturalPiece e.owner.raw.toNat) :: r.members) (values e r) :=
    .cons ⟨rfl, (reads_quoted e.topic).mono (by decide)⟩ <|
      .cons ⟨rfl, (reads_natural e.owner.raw.toNat).mono (by decide)⟩ r.readsMembers
  have hlength : 29 ≤ (body e r).length := length_le_objectPieces (("topic", quoted e.topic) ::
    ("owner", naturalPiece e.owner.raw.toNat) :: r.members)
  have hcalls : 14 ≤ 2 * (body e r).length + 2 := by omega
  exact parse_of_reads (reads_object hmembers) hcalls htrail

theorem record_body {trail : List Char} (htrail : ∀ c ∈ trail, isBlank c = true) :
    Record.parse? (String.ofList (body e r ++ trail)) = some r := by
  have htopic : "topic" ∉ Record.fields := by decide
  have howner : "owner" ∉ Record.fields := by decide
  rw [Record.parse?, String.toList_ofList, parse_body e r htrail]
  apply r.ofJson?_append
  simp [htopic, howner]

theorem newline_not_mem_body : newline ∉ utf8 (body e r) := by
  obtain ⟨text, htext, hnewline⟩ := newline_not_mem_line e r
  have hbody : body e r = text := List.append_cancel_right htext
  exact newline_not_mem_utf8 (hbody ▸ hnewline)

theorem utf8_line : utf8 (line e r) = utf8 (body e r) ++ [newline] :=
  utf8_append (body e r) ['\n']

private theorem lineOf_line : LineOf e r (line e r) := by
  have hend : ∀ c ∈ ['\n'], isBlank c = true := by simp [isBlank]
  refine ⟨⟨utf8 (body e r), utf8_line e r, newline_not_mem_body e r⟩, ?_, record_body e r hend⟩
  refine ⟨values e r, parse_body e r hend, ?_, lookup_topic e r, lookup_owner e r⟩
  change (["topic", "owner", "stamp", "level", "name", "msg", "file", "function", "line"].map
    some).Nodup
  decide

@[simp] theorem read?_body : read? (utf8 (body e r)) = some (e, r) := by
  have hnone : ∀ c ∈ ([] : List Char), isBlank c = true := by simp
  have hparse := parse_body e r hnone
  have hrecord := record_body e r hnone
  rw [List.append_nil] at hparse hrecord
  have htopic : (object (values e r) true).field? 0 "topic" = _ := lookup_topic e r
  have howner : (object (values e r) true).field? 1 "owner" = _ := lookup_owner e r
  rw [read?, decode?_utf8]
  simp [hparse, hrecord, htopic, howner, text?]

@[simp] private theorem chomp_body : chomp (utf8 (body e r)) = utf8 (body e r) := by
  obtain ⟨text, htext⟩ : ∃ text, body e r = text ++ ['\x7d'] := by
    rw [body, linePieces, objectPieces, List.flatten_cons, List.flatten_append]
    exact ⟨_, (List.append_assoc ..).symm⟩
  have hlast : (utf8 (body e r)).getLast? = some 0x7d := by
    rw [htext, utf8_append]
    exact List.getLast?_concat
  rw [chomp, hlast, if_neg (by decide)]

end LogRouting.JsonLines

namespace LogRouting.JsonLines

/-! Runs -/

open Relay

/-- A transport and the endpoints that it has given out. They stay usable once destroyed. -/
structure Session where
  transport : JsonLines
  endpoints : List Endpoint := []

/-- An endpoint is known by its place among those given out. -/
inductive Step where
  | create (owner : OwnerId) (topic : String)
  | publish (slot : Nat) (r : Record)
  | destroy (slot : Nat) (owner : OwnerId)

namespace Step

def given (endpoints : List Endpoint) : Step → List Endpoint
  | .create owner topic => endpoints ++ [⟨owner, topic⟩]
  | .publish .. | .destroy .. => endpoints

def published (endpoints : List Endpoint) : Step → List (Endpoint × Record)
  | .publish slot r => endpoints[slot]?.toList.map (·, r)
  | .create .. | .destroy .. => []

end Step

def publishedBy (endpoints : List Endpoint) : List Step → List (Endpoint × Record)
  | [] => []
  | c :: steps => c.published endpoints ++ publishedBy (c.given endpoints) steps

def textOf (out : List (Endpoint × Record)) : List Char :=
  out.flatMap fun x => line x.1 x.2

namespace Session

def step (s : Session) : Step → Except TransportError Unit × Session
  | .create owner topic =>
    match Transport.create owner topic s.transport with
    | (.ok e, t) => (.ok (), ⟨t, s.endpoints ++ [e]⟩)
    | (.error e, t) => (.error e, ⟨t, s.endpoints⟩)
  | .publish slot r =>
    match s.endpoints[slot]? with
    | none => (.ok (), s)
    | some e =>
      let (result, t) := Transport.publish e r s.transport
      (result, { s with transport := t })
  | .destroy slot owner =>
    match s.endpoints[slot]? with
    | none => (.ok (), s)
    | some e =>
      let (result, t) := Transport.destroy owner e s.transport
      (result, { s with transport := t })

def run (s : Session) (steps : List Step) : Session :=
  steps.foldl (fun s c => (s.step c).2) s

def answers (s : Session) : List Step → List (Except TransportError Unit)
  | [] => []
  | c :: steps => (s.step c).1 :: (s.step c).2.answers steps

variable {s : Session} {base : Files} {p : Place} {bytes : List UInt8}

theorem settled_step (h : s.transport.Settled base p bytes) (c : Step) :
    (s.step c).1 = .ok () ∧ (s.step c).2.endpoints = c.given s.endpoints ∧
      (s.step c).2.transport.Settled base p
        (bytes ++ utf8 (textOf (c.published s.endpoints))) := by
  have hnothing : bytes ++ utf8 (textOf []) = bytes := List.append_nil bytes
  cases c with
  | create owner topic =>
    rw [Step.published, hnothing]
    exact ⟨rfl, rfl, h⟩
  | publish slot r =>
    rw [Step.published, step]
    cases s.endpoints[slot]? with
    | none =>
      rw [Option.toList_none, List.map_nil, hnothing]
      exact ⟨rfl, rfl, h⟩
    | some e =>
      obtain ⟨hok, hsettled⟩ := h.1.publish e r
      have hline : textOf [(e, r)] = line e r := List.append_nil _
      rw [Option.toList_some, List.map_cons, List.map_nil, hline]
      exact ⟨hok, rfl, hsettled⟩
  | destroy slot owner =>
    rw [Step.published, hnothing, step]
    cases s.endpoints[slot]? with
    | none => exact ⟨rfl, rfl, h⟩
    | some e =>
      obtain ⟨hok, hsettled⟩ := h.1.destroy owner e
      exact ⟨hok, rfl, hsettled⟩

theorem settled_run (h : s.transport.Settled base p bytes) (steps : List Step) :
    (∀ answer ∈ s.answers steps, answer = .ok ()) ∧
      (s.run steps).transport.Settled base p
        (bytes ++ utf8 (textOf (publishedBy s.endpoints steps))) := by
  induction steps generalizing s bytes with
  | nil =>
    have hnothing : bytes ++ utf8 (textOf []) = bytes := List.append_nil bytes
    rw [publishedBy, hnothing]
    exact ⟨by simp [answers], h⟩
  | cons c steps ih =>
    obtain ⟨hok, hgiven, hsettled⟩ := settled_step h c
    obtain ⟨hanswers, hrest⟩ := ih hsettled
    rw [hgiven, List.append_assoc, ← utf8_append, textOf, textOf, ← List.flatMap_append] at hrest
    exact ⟨List.forall_mem_cons.mpr ⟨hok, hanswers⟩, hrest⟩

end Session

@[simp] private theorem lines_textOf (out : List (Endpoint × Record)) :
    lines (utf8 (textOf out)) = out.map bodyBytes := by
  induction out with
  | nil => rfl
  | cons x out ih =>
    have hbytes : utf8 (textOf (x :: out)) =
        utf8 (body x.1 x.2) ++ [newline] ++ utf8 (textOf out) := by
      rw [← utf8_line, ← utf8_append]
      rfl
    rw [hbytes, lines_append (.inr List.getLast?_concat), lines_line (newline_not_mem_body _ _),
      chomp_body, ih]
    rfl

def ownedBy (owner : OwnerId) (bytes : List UInt8) : Bool :=
  (read? bytes).any (·.1.owner = owner)

/-- The lines that are new to a file are those of what was published, one for each record, and those
of an owner of what was published for that owner, in order. -/
structure LinesOf (out : List (Endpoint × Record)) (new : List (List UInt8)) : Prop where
  length_eq : new.length = out.length
  read_eq : new.map read? = out.map some
  owner_eq (owner : OwnerId) :
    (new.filter (ownedBy owner)).map read? = (out.filter (·.1.owner = owner)).map some

private theorem linesOf_bodies (out : List (Endpoint × Record)) :
    LinesOf out (out.map bodyBytes) where
  length_eq := List.length_map _
  read_eq := by
    rw [List.map_map]
    exact List.map_congr_left fun x _ => read?_body x.1 x.2
  owner_eq owner := by
    have howned : ownedBy owner ∘ bodyBytes = fun x => decide (x.1.owner = owner) := by
      funext x
      simp [ownedBy, bodyBytes]
    rw [List.filter_map, howned, List.map_map]
    exact List.map_congr_left fun x _ => read?_body x.1 x.2

/-- However endpoints are created, published on and destroyed, if the file takes bytes: all of it
succeeds, and the file holds the bytes it held before, whatever they are, and one line for each
record, whichever endpoint it was published on, in order. Each line is of its record and its
endpoint. If the file was empty or its last line was complete, these are the lines that are new to
it. -/
theorem file_of_run {path : String} {files : Files} {t : JsonLines}
    (hopen : ofPath path files = .ok t)
    (hwrites : t.files.node? t.spool.place ≠ some .fullDevice) (steps : List Step) :
    let start : Session := { transport := t }
    let out := publishedBy [] steps
    let before := files.content t.spool.place
    let after := before ++ utf8 (textOf out)
    (∀ answer ∈ start.answers steps, answer = .ok ()) ∧
      (start.run steps).transport.files.node? t.spool.place = some (.file after) ∧
      (∀ x ∈ out, LineOf x.1 x.2 (line x.1 x.2)) ∧
      (before = [] ∨ before.getLast? = some newline →
        ∃ new, lines after = lines before ++ new ∧ LinesOf out new) := by
  intro start out before after
  obtain ⟨-, hsettled⟩ := filed_opened hopen hwrites
  obtain ⟨hanswers, hrun⟩ := Session.settled_run (s := start) hsettled steps
  refine ⟨hanswers, hrun.node?, fun x _ => lineOf_line x.1 x.2, fun hbefore => ?_⟩
  refine ⟨_, ?_, linesOf_bodies out⟩
  rw [lines_append hbefore, lines_textOf]

/-- Two owners on one file that held a line of no text; the first publishes when its endpoint is
gone. -/
theorem file_of_run_two_owners :
    let files : Files := ⟨[(["a"], .file [0xff, newline])]⟩
    let r : Record := ⟨⟨3, 4⟩, 20, "nav", "a\"b", "", "", 0⟩
    let steps : List Step := [.create ⟨7⟩ "x", .create ⟨8⟩ "y", .destroy 0 ⟨7⟩, .publish 1 r,
      .publish 0 r]
    ∃ t, ofPath "a" files = .ok t ∧ t.files.node? t.spool.place ≠ some .fullDevice ∧
      publishedBy [] steps = [(⟨⟨8⟩, "y"⟩, r), (⟨⟨7⟩, "x"⟩, r)] ∧
      (Session.run { transport := t } steps).transport.files.node? ["a"] =
        some (.file ([0xff, newline] ++ utf8 (
        "\x7b\"topic\":\"y\",\"owner\":8,\"stamp\":\x7b\"sec\":3,\"nanosec\":4\x7d," ++
        "\"level\":20,\"name\":\"nav\",\"msg\":\"a\\\"b\",\"file\":\"\",\"function\":\"\"," ++
        "\"line\":0\x7d\n" ++
        "\x7b\"topic\":\"x\",\"owner\":7,\"stamp\":\x7b\"sec\":3,\"nanosec\":4\x7d," ++
        "\"level\":20,\"name\":\"nav\",\"msg\":\"a\\\"b\",\"file\":\"\",\"function\":\"\"," ++
        "\"line\":0\x7d\n").toList)) := by
  intro files r steps
  have hopen : ofPath "a" files = .ok { files, spool := { place := ["a"] } } := by decide +kernel
  have hwrites : files.node? ["a"] ≠ some .fullDevice := by decide
  obtain ⟨-, hfile, -⟩ := file_of_run hopen hwrites steps
  refine ⟨_, hopen, hwrites, rfl, hfile.trans ?_⟩
  decide +kernel

end LogRouting.JsonLines

namespace LogRouting.JsonLines

/-! A file that was opened again -/

open Relay

/-- What stands after the last newline of a file once records were published, and before that only
a tail did. -/
def continued (tail : List UInt8) : List (Endpoint × Record) → List (List UInt8)
  | [] => [tail]
  | x :: out => (tail ++ bodyBytes x) :: (out.map bodyBytes ++ [[]])

@[simp] theorem splitOn_newline (text more : List UInt8) :
    (text ++ newline :: more).splitOn newline = text.splitOn newline ++ more.splitOn newline :=
  List.splitOnP_append_cons text more (beq_self_eq_true newline)

theorem newline_not_mem_bodyBytes (x : Endpoint × Record) : newline ∉ bodyBytes x :=
  newline_not_mem_body x.1 x.2

@[simp] theorem utf8_textOf_cons (x : Endpoint × Record) (out : List (Endpoint × Record)) :
    utf8 (textOf (x :: out)) = bodyBytes x ++ newline :: utf8 (textOf out) := by
  have hline : textOf (x :: out) = line x.1 x.2 ++ textOf out := rfl
  rw [hline, utf8_append, utf8_line, List.append_assoc]
  rfl

@[simp] theorem splitOn_textOf (out : List (Endpoint × Record)) :
    (utf8 (textOf out)).splitOn newline = out.map bodyBytes ++ [[]] := by
  induction out with
  | nil => rfl
  | cons x out ih =>
    have hbody := List.splitOn_eq_singleton (newline_not_mem_bodyBytes x)
    rw [utf8_textOf_cons, splitOn_newline, ih, hbody]
    rfl

@[simp] theorem splitOn_continued {tail : List UInt8} (htail : newline ∉ tail)
    (out : List (Endpoint × Record)) :
    (tail ++ utf8 (textOf out)).splitOn newline = continued tail out := by
  cases out with
  | nil =>
    have hnothing : tail ++ utf8 (textOf []) = tail := List.append_nil tail
    rw [hnothing, List.splitOn_eq_singleton htail]
    rfl
  | cons x out =>
    have hfirst : newline ∉ tail ++ bodyBytes x := by simp [htail, newline_not_mem_bodyBytes x]
    rw [utf8_textOf_cons, ← List.append_assoc, splitOn_newline, splitOn_textOf,
      List.splitOn_eq_singleton hfirst]
    rfl

private theorem exists_tail (bytes : List UInt8) :
    newline ∉ bytes ∨ ∃ front tail, bytes = front ++ newline :: tail ∧ newline ∉ tail := by
  induction bytes with
  | nil => exact .inl List.not_mem_nil
  | cons b bytes ih =>
    rcases ih with hnone | ⟨front, tail, rfl, htail⟩
    · by_cases hb : b = newline
      · exact .inr ⟨[], bytes, by rw [hb]; rfl, hnone⟩
      · exact .inl (List.not_mem_cons_of_ne_of_not_mem (Ne.symm hb) hnone)
    · exact .inr ⟨b :: front, tail, rfl, htail⟩

theorem splitOn_append_textOf (bytes : List UInt8) :
    ∃ whole tail, bytes.splitOn newline = whole ++ [tail] ∧
      ∀ out, (bytes ++ utf8 (textOf out)).splitOn newline = whole ++ continued tail out := by
  rcases exists_tail bytes with hnone | ⟨front, tail, rfl, htail⟩
  · exact ⟨[], bytes, List.splitOn_eq_singleton hnone, splitOn_continued hnone⟩
  · refine ⟨front.splitOn newline, tail, ?_, fun out => ?_⟩
    · rw [splitOn_newline, List.splitOn_eq_singleton htail]
    · rw [List.append_assoc, List.cons_append, splitOn_newline, splitOn_continued htail]

/-- However endpoints are created, published on and destroyed after a file was opened, if it takes
bytes: its lines are the ones it had, then its tail with the first record at the end of it, then
each other record on a line of its own. A record reads back from a line of its own; the first record
has one where the file was empty or its last line complete. -/
theorem records_after_tail {path : String} {files : Files} {t : JsonLines}
    (hopen : ofPath path files = .ok t)
    (hwrites : t.files.node? t.spool.place ≠ some .fullDevice) (steps : List Step) :
    let start : Session := { transport := t }
    let out := publishedBy [] steps
    let before := files.content t.spool.place
    let after := (start.run steps).transport.files.content t.spool.place
    (∀ answer ∈ start.answers steps, answer = .ok ()) ∧
      (∀ x ∈ out, read? (bodyBytes x) = some x) ∧
      ∃ whole tail, before.splitOn newline = whole ++ [tail] ∧
        after.splitOn newline = whole ++ continued tail out ∧
        (tail = [] → after.splitOn newline = whole ++ (out.map bodyBytes ++ [[]])) := by
  intro start out before after
  obtain ⟨-, hsettled⟩ := filed_opened hopen hwrites
  obtain ⟨hanswers, hrun⟩ := Session.settled_run (s := start) hsettled steps
  have hafter : after = before ++ utf8 (textOf out) := Files.content_of_node? hrun.node?
  obtain ⟨whole, tail, hbefore, hcontinued⟩ := splitOn_append_textOf before
  rw [hafter]
  refine ⟨hanswers, fun x _ => read?_body x.1 x.2, whole, tail, hbefore, hcontinued out, ?_⟩
  rintro rfl
  rw [hcontinued]
  cases out <;> rfl

/-- A line that was cut inside a character, and two records when the file was opened again: the
second of them has a line of its own. -/
theorem records_after_tail_of_two :
    let e : Endpoint := ⟨⟨8⟩, "é"⟩
    let r : Record := ⟨⟨3, 4⟩, 20, "nav", "a\"b", "", "", 0⟩
    let torn := (utf8 (line e r)).take 11
    let files : Files := ⟨[(["a"], .file (utf8 "old\n".toList ++ torn))]⟩
    ∃ t, ofPath "a" files = .ok t ∧ t.files.node? t.spool.place ≠ some .fullDevice ∧
      decode? torn = none ∧
      ((Session.run { transport := t } [.create ⟨8⟩ "é", .publish 0 r,
        .publish 0 r]).transport.files.content ["a"]).splitOn newline =
        [utf8 "old".toList, torn ++ bodyBytes (e, r), bodyBytes (e, r), []] ∧
      read? (bodyBytes (e, r)) = some (e, r) := by
  intro e r torn files
  have hopen : ofPath "a" files = .ok { files, spool := { place := ["a"] } } := by decide +kernel
  have hwrites : files.node? ["a"] ≠ some .fullDevice := by decide
  have hdecode : decode? torn = none := by decide +kernel
  obtain ⟨-, hread, whole, tail, hbefore, hafter, -⟩ := records_after_tail hopen hwrites
    [.create ⟨8⟩ "é", .publish 0 r, .publish 0 r]
  have hcut : whole ++ [tail] = [utf8 "old".toList] ++ [torn] := by
    rw [← hbefore]
    decide +kernel
  obtain ⟨rfl, htail⟩ := List.append_inj' hcut rfl
  cases htail
  exact ⟨_, hopen, hwrites, hdecode, hafter, hread (e, r) List.mem_cons_self⟩

/-- A record that was cut short when it was published takes the next one with it: no line of the
file reads as a record any more. -/
theorem tail_swallows_record :
    let e : Endpoint := ⟨⟨7⟩, "rosout"⟩
    let r : Record := ⟨⟨3, 4⟩, 20, "robot.nav", "hello", "", "", 0⟩
    let files : Files := ⟨[(["a"], .file (utf8 ((line e r).take 50)))]⟩
    ∃ t, ofPath "a" files = .ok t ∧ t.files.node? t.spool.place ≠ some .fullDevice ∧
      publishedBy [] [.create ⟨7⟩ "rosout", .publish 0 r] = [(e, r)] ∧
      ∀ bytes ∈ ((Session.run { transport := t } [.create ⟨7⟩ "rosout",
        .publish 0 r]).transport.files.content ["a"]).splitOn newline,
        (decode? bytes).bind Record.parse? = none := by
  intro e r files
  let torn := (line e r).take 50
  have hopen : ofPath "a" files = .ok { files, spool := { place := ["a"] } } := by decide +kernel
  have hwrites : files.node? ["a"] ≠ some .fullDevice := by decide
  obtain ⟨-, hsettled⟩ := filed_opened hopen hwrites
  obtain ⟨-, hrun⟩ := Session.settled_run (s := { transport := _ }) hsettled
    [.create ⟨7⟩ "rosout", .publish 0 r]
  have htorn : newline ∉ utf8 torn := by decide +kernel
  have hcontent : files.content ["a"] = utf8 torn := Files.content_of_node? rfl
  refine ⟨_, hopen, hwrites, rfl, fun bytes hbytes => ?_⟩
  have hlines : bytes ∈ continued (utf8 torn) [(e, r)] := by
    rw [← splitOn_continued htorn, ← hcontent]
    rwa [Files.content_of_node? hrun.node?] at hbytes
  rcases List.mem_cons.mp hlines with rfl | hend
  · have hswallowed : utf8 torn ++ bodyBytes (e, r) = utf8 (torn ++ body e r) :=
      (utf8_append ..).symm
    rw [hswallowed, decode?_utf8, Option.bind_some, Record.parse?, String.toList_ofList]
    decide +kernel
  · rw [List.mem_singleton.mp hend]
    decide +kernel

end LogRouting.JsonLines
