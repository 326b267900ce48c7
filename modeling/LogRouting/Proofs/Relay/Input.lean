import LogRouting.Proofs.Router.Logging
import LogRouting.Proofs.Severity
import LogRouting.Relay
/-!
The input of a relay. A stream is cut into lines, and a line loses the severity it is marked with
and no more. A session that is fed the input logs the events of its lines, one after another, and
nothing else. Main statements: `parseLine_exact` and `feedAll_input`.
-/
namespace LogRouting.Relay

/-! Marked lines -/

open Text (AllBlank isBlank trimStart)

/-- `line` is a word for `v` in any ASCII case, with any white space around it, then a colon, white
space or none, and `message`, which does not start with white space. -/
def Marked (line : String) (v : Severity) (message : List Char) : Prop :=
  ∃ word gap, Severity.Names word v ∧ AllBlank gap ∧ (∀ c ∈ message.head?, isBlank c = false) ∧
    line.toList = word ++ ':' :: (gap ++ message)

variable {line : String} {word rest message : List Char} {v : Severity}

theorem span_colon (hline : line.toList = word ++ ':' :: rest) (hword : ':' ∉ word) :
    line.toList.span (· ≠ ':') = (word, ':' :: rest) := by
  have hne : ∀ c ∈ word, decide (c ≠ ':') = true := by
    intro c hc
    exact decide_eq_true fun h => hword (h ▸ hc)
  rw [hline, Text.span_append hne (by decide)]

private theorem parseLine_of_ok (hline : line.toList = word ++ ':' :: rest) (hword : ':' ∉ word)
    (hread : Severity.ofText (String.ofList word) = .ok v) :
    parseLine line = (v, String.ofList (trimStart rest)) := by
  rw [parseLine, span_colon hline hword]
  dsimp only
  rw [hread]

private theorem parseLine_of_error {e : LogError} (hline : line.toList = word ++ ':' :: rest)
    (hword : ':' ∉ word) (hread : Severity.ofText (String.ofList word) = .error e) :
    parseLine line = (.info, line) := by
  rw [parseLine, span_colon hline hword]
  dsimp only
  rw [hread]

private theorem parseLine_of_no_colon (h : ':' ∉ line.toList) : parseLine line = (.info, line) := by
  have hne : ∀ c ∈ line.toList, decide (c ≠ ':') = true := by
    intro c hc
    exact decide_eq_true fun heq => h (heq ▸ hc)
  rw [parseLine, List.span_eq_takeWhile_dropWhile, List.dropWhile_eq_nil_iff.mpr hne]

private theorem colon_not_mem (h : Severity.Names word v) : ':' ∉ word := by
  obtain ⟨core, ⟨before, after, hbefore, hafter, rfl⟩, hcore⟩ := h
  have hblank : isBlank ':' = false := by decide
  simp only [List.mem_append, not_or]
  refine ⟨⟨fun hc => ?_, fun hc => ?_⟩, fun hc => ?_⟩
  · exact absurd (hbefore ':' hc) (by simp [hblank])
  · have hsmall := Severity.isSmall_of_mem_words hcore ':'
    rw [String.toList_ofList] at hsmall
    exact absurd (hsmall (List.mem_map.mpr ⟨':', hc, by decide⟩)) (by decide)
  · exact absurd (hafter ':' hc) (by simp [hblank])

theorem parseLine_of_marked (h : Marked line v message) :
    parseLine line = (v, String.ofList message) := by
  obtain ⟨word, gap, hword, hgap, hmessage, hline⟩ := h
  have hread : Severity.ofText (String.ofList word) = .ok v := by
    rwa [Severity.ofText_eq_ok_iff, String.toList_ofList]
  rw [parseLine_of_ok hline (colon_not_mem hword) hread, Text.trimStart_append hgap,
    Text.trimStart_of_head hmessage]

theorem marked_of_colon (hline : line.toList = word ++ ':' :: rest)
    (hword : Severity.Names word v) : Marked line v (trimStart rest) := by
  obtain ⟨gap, hgap, hrest⟩ := Text.exists_trimStart rest
  exact ⟨word, gap, hword, hgap, Text.head_trimStart rest, hrest ▸ hline⟩

theorem parseLine_of_unnamed (hline : line.toList = word ++ ':' :: rest) (hcolon : ':' ∉ word)
    (hword : ∀ v, ¬Severity.Names word v) : parseLine line = (.info, line) := by
  cases hread : Severity.ofText (String.ofList word) with
  | error e => exact parseLine_of_error hline hcolon hread
  | ok v =>
    rw [Severity.ofText_eq_ok_iff, String.toList_ofList] at hread
    exact absurd hread (hword v)

theorem parseLine_of_unmarked (h : ∀ v message, ¬Marked line v message) :
    parseLine line = (.info, line) := by
  by_cases hcolon : ':' ∈ line.toList
  · obtain ⟨word, rest, hline, hword⟩ := List.eq_append_cons_of_mem hcolon
    exact parseLine_of_unnamed hline hword fun v hv => h v _ (marked_of_colon hline hv)
  · exact parseLine_of_no_colon hcolon

/-- A marked line gives its severity and its message. All other lines are information and stay
whole: above all those whose text before the first colon is no word for a severity, whatever stands
before a later one. In any case the message is the end of the line. -/
theorem parseLine_exact (line : String) :
    (parseLine line).2.toList <:+ line.toList ∧
    (∀ v message, Marked line v message → parseLine line = (v, String.ofList message)) ∧
    ((∀ v message, ¬Marked line v message) → parseLine line = (.info, line)) ∧
    (∀ word rest, line.toList = word ++ ':' :: rest → ':' ∉ word →
      (∀ v, ¬Severity.Names word v) → parseLine line = (.info, line)) := by
  refine ⟨?_, fun v message => parseLine_of_marked, parseLine_of_unmarked,
    fun word rest => parseLine_of_unnamed⟩
  by_cases hmarked : ∃ v message, Marked line v message
  · obtain ⟨v, message, h⟩ := hmarked
    rw [parseLine_of_marked h, String.toList_ofList]
    obtain ⟨word, gap, -, -, -, hline⟩ := h
    exact ⟨word ++ ':' :: gap, by simp [hline]⟩
  · have hwhole := parseLine_of_unmarked fun v message h => hmarked ⟨v, message, h⟩
    exact ⟨[], congrArg (fun p => p.2.toList) hwhole⟩

/-- Capitals, white space of several kinds, and a message with colons and words of its own. -/
theorem parseLine_exact_warning :
    let line := " \u00a0WarNing\t:\u3000 error: low: 5"
    Marked line .warn "error: low: 5".toList ∧ parseLine line = (.warn, "error: low: 5") := by
  have hmarked : Marked " \u00a0WarNing\t:\u3000 error: low: 5" .warn "error: low: 5".toList := by
    refine ⟨" \u00a0WarNing\t".toList, "\u3000 ".toList,
      ⟨"WarNing".toList, ⟨" \u00a0".toList, ['\t'], by decide, by decide, by decide⟩, by decide⟩,
      by decide, fun c hc => ?_, by decide⟩
    cases hc
    decide
  exact ⟨hmarked, (parseLine_exact _).2.1 _ _ hmarked⟩

end LogRouting.Relay

namespace LogRouting.Relay

/-! Events -/

def chomp (line : List UInt8) : List UInt8 :=
  if line.getLast? = some carriageReturn then line.dropLast else line

/-- The last part was not ended by a newline, and is a line only if it holds anything. -/
def linesOf (parts : List (List UInt8)) : List (List UInt8) :=
  parts.dropLast.map chomp ++ parts.getLast?.toList.filter (· ≠ [])

@[simp] theorem endedLine_eq (before : List UInt8) : endedLine before = chomp before.reverse := by
  cases before with
  | nil => rfl
  | cons b before =>
    rw [endedLine, chomp, List.getLast?_reverse, List.dropLast_reverse]
    simp

private theorem linesAfter_eq (before bytes : List UInt8) :
    linesAfter before bytes = linesOf (bytes.splitOnPPrepend (· == newline) before) := by
  induction bytes generalizing before with
  | nil =>
    rw [linesAfter, List.splitOnPPrepend_nil]
    cases before with
    | nil => rfl
    | cons b before => simp [linesOf]
  | cons b bytes ih =>
    rw [linesAfter, List.splitOnPPrepend_cons_eq_if]
    by_cases hb : b = newline
    · have hparts := List.splitOnPPrepend_ne_nil (· == newline) bytes []
      obtain ⟨part, parts, hsplit⟩ := List.exists_cons_of_ne_nil hparts
      rw [if_pos hb, if_pos (by simpa using hb), ih, endedLine_eq,
        ← List.splitOnPPrepend_nil_right, hsplit]
      simp [linesOf]
    · rw [if_neg hb, if_neg (by simpa using hb), ih]

/-- The lines of a stream are what stands between its newlines. -/
theorem lines_eq (bytes : List UInt8) : lines bytes = linesOf (bytes.splitOn newline) :=
  linesAfter_eq [] bytes

def texts (timed : List (List UInt8 × Nat)) : List (String × Nat) :=
  (timed.takeWhile fun l => (decode? l.1).isSome).filterMap fun l => (decode? l.1).map (·, l.2)

def eventOf (logger : String) (here : Location) (time : Int64) (text : String) : Event where
  severity := (parseLine text).1
  logger := logger
  nanos := time
  message := (parseLine text).2
  location := some here

def eventsOf (logger : String) (here : Location) (clock : Nat → Int64)
    (timed : List (List UInt8 × Nat)) : List Event :=
  ((texts timed).filter fun t => !isBlankLine t.1).map fun t => eventOf logger here (clock t.2) t.1

def inputEvents (logger : String) (here : Location) (clock : Nat → Int64) (stdin : List UInt8) :
    List Event :=
  eventsOf logger here clock (linesOf (stdin.splitOn newline)).zipIdx

section
variable {logger : String} {here : Location} {clock : Nat → Int64} {line : List UInt8} {n : Nat}
  {timed : List (List UInt8 × Nat)}

private theorem eventsOf_malformed (h : decode? line = none) :
    eventsOf logger here clock ((line, n) :: timed) = [] := by
  simp [eventsOf, texts, h]

theorem eventsOf_cons {text : String} (h : decode? line = some text) :
    eventsOf logger here clock ((line, n) :: timed) =
      (if isBlankLine text then [] else [eventOf logger here (clock n) text]) ++
        eventsOf logger here clock timed := by
  cases hblank : isBlankLine text <;> simp [eventsOf, texts, h, hblank]

end

namespace Session

variable {s : Session}

private theorem feed_broken (clock : Nat → Int64) (timed : List (List UInt8 × Nat))
    (h : s.broken = true) : timed.foldl (fun s (line, n) => s.feed (clock n) line) s = s := by
  induction timed with
  | nil => rfl
  | cons l timed ih =>
    obtain ⟨line, n⟩ := l
    have hstay : s.feed (clock n) line = s := if_pos h
    rw [List.foldl_cons]
    dsimp only
    rw [hstay]
    exact ih

private theorem feed_malformed {time : Int64} {line : List UInt8} (h : s.broken = false)
    (hline : decode? line = none) : s.feed time line = { s with broken := true } := by
  rw [feed, if_neg (by simp [h]), hline]

private theorem feed_text {time : Int64} {line : List UInt8} {text : String} (h : s.broken = false)
    (hline : decode? line = some text) :
    s.feed time line = { s with
      router := (if isBlankLine text then [] else [eventOf s.guard.name s.here time text]).foldl
        (fun r e => (r.log e).2) s.router } := by
  rw [feed, if_neg (by simp [h]), hline]
  dsimp only
  by_cases hblank : isBlankLine text
  · rw [if_pos hblank, if_pos hblank]
    rfl
  · rw [if_neg hblank, if_neg hblank]
    rfl

theorem feed_timed (clock : Nat → Int64) (timed : List (List UInt8 × Nat))
    (h : s.broken = false) :
    (timed.foldl (fun s (line, n) => s.feed (clock n) line) s).router =
        (eventsOf s.guard.name s.here clock timed).foldl (fun r e => (r.log e).2) s.router ∧
      (timed.foldl (fun s (line, n) => s.feed (clock n) line) s).guard = s.guard := by
  induction timed generalizing s with
  | nil => exact ⟨rfl, rfl⟩
  | cons l timed ih =>
    obtain ⟨line, n⟩ := l
    rw [List.foldl_cons]
    dsimp only
    cases hline : decode? line with
    | none =>
      rw [feed_malformed h hline, feed_broken clock timed rfl, eventsOf_malformed hline]
      exact ⟨rfl, rfl⟩
    | some text =>
      rw [feed_text h hline, eventsOf_cons hline, List.foldl_append]
      exact ih h

theorem feedAll_input (clock : Nat → Int64) (stdin : List UInt8) (h : s.broken = false) :
    (s.feedAll clock (lines stdin)).router =
        (inputEvents s.guard.name s.here clock stdin).foldl (fun r e => (r.log e).2) s.router ∧
      (s.feedAll clock (lines stdin)).guard = s.guard := by
  rw [feedAll, lines_eq]
  exact feed_timed clock _ h

end Session

end LogRouting.Relay

namespace LogRouting.Relay

/-! Streams whose lines all end -/

private theorem linesAfter_append (before text more : List UInt8) :
    linesAfter before (text ++ newline :: more) =
      linesAfter before (text ++ [newline]) ++ lines more := by
  induction text generalizing before with
  | nil => rfl
  | cons b text ih =>
    rw [List.cons_append, List.cons_append, linesAfter, linesAfter]
    split
    · rw [ih, List.cons_append]
    · exact ih (b :: before)

theorem lines_append {text : List UInt8} (h : text = [] ∨ text.getLast? = some newline)
    (more : List UInt8) : lines (text ++ more) = lines text ++ lines more := by
  rcases h with rfl | hlast
  · rfl
  · obtain ⟨front, rfl⟩ := List.getLast?_eq_some_iff.mp hlast
    rw [List.append_assoc]
    exact linesAfter_append [] front more

theorem lines_line {text : List UInt8} (h : newline ∉ text) :
    lines (text ++ [newline]) = [chomp text] := by
  have hafter (before : List UInt8) :
      linesAfter before (text ++ [newline]) = [endedLine (text.reverse ++ before)] := by
    induction text generalizing before with
    | nil => rfl
    | cons b text ih =>
      obtain ⟨hb, htext⟩ := List.ne_and_not_mem_of_not_mem_cons h
      rw [List.cons_append, linesAfter, if_neg (Ne.symm hb), ih htext]
      simp
  rw [lines, hafter, endedLine_eq]
  simp

end LogRouting.Relay
