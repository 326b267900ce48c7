import LogRouting.Proofs.Console
import LogRouting.Proofs.Record
import Mathlib.Algebra.Order.BigOperators.Group.List
import Mathlib.Algebra.Order.Ring.Nat
/-!
How many lines a console shows. JSON is one line for every event. The other formats show texts as
they are, so that every newline in one of them makes one line more. Main statement: `newlines_got`.
-/
namespace LogRouting

open Writer Relay

/-- The newlines in those texts of an event that a format shows as they are. -/
def ConsoleFormat.breaks : ConsoleFormat → Event → Nat
  | pretty, e =>
    e.logger.toList.count '\n' + e.message.toList.count '\n' +
      match e.location with
      | none => 0
      | some l => l.file.toList.count '\n' + l.function.toList.count '\n'
  | json, _ => 0
  | raw, e => e.message.toList.count '\n'

theorem count_newline_of_plain {s : List Char} (h : ∀ c ∈ s, 0x20 ≤ c.toNat) :
    s.count '\n' = 0 := by
  refine List.count_eq_zero_of_not_mem fun hmem => ?_
  exact absurd (h '\n' hmem) (by decide)

theorem Stamp.plain_text (s : Stamp) : ∀ c ∈ s.text, 0x20 ≤ c.toNat := by
  refine List.forall_mem_append.mpr ⟨Text.le_toNat_signedNumeral _, ?_⟩
  refine List.forall_mem_cons.mpr ⟨by decide, List.forall_mem_append.mpr ⟨fun c hc => ?_, ?_⟩⟩
  · rw [List.eq_of_mem_replicate hc]
    decide
  · exact Text.le_toNat_numeral _

namespace ConsoleFormat

@[simp] private theorem count_prettyLine (e : Event) :
    (prettyLine e).count '\n' = pretty.breaks e := by
  have hlabel : e.severity.label.toList.count '\n' = 0 := by
    cases e.severity <;> decide
  have hstamp := count_newline_of_plain (Stamp.ofNanos e.nanos).plain_text
  have hline : ∀ n, (Text.numeral n).count '\n' = 0 :=
    fun n => count_newline_of_plain (Text.le_toNat_numeral n)
  obtain ⟨severity, logger, nanos, message, location⟩ := e
  cases location with
  | none => simp [prettyLine, breaks, hlabel, hstamp]
  | some l =>
    simp [prettyLine, breaks, hlabel, hstamp, hline]
    omega

@[simp] theorem count_render (format : ConsoleFormat) (e : Event) :
    (format.render e).count '\n' = format.breaks e := by
  cases format with
  | pretty => exact count_prettyLine e
  | json => exact count_newline_of_plain (Record.ofEvent e).plain_toJson
  | raw => rfl

theorem line_eq (format : ConsoleFormat) (e : Event) :
    format.line e = utf8 (format.render e) ++ [newline] :=
  utf8_append (format.render e) ['\n']

@[simp] private theorem count_line (format : ConsoleFormat) (e : Event) :
    (format.line e).count newline = format.breaks e + 1 := by
  rw [line_eq, List.count_append, count_newline_utf8, count_render]
  rfl

private theorem count_pages {W : Type} {format : ConsoleFormat} {ts : List (Event × (W → W))}
    {pages : List (List Taken)}
    (h : List.Forall₂ (fun t page => got page = format.line t.1) ts pages) :
    (got pages.flatten).count newline =
      ts.length + (ts.map fun t => format.breaks t.1).sum := by
  induction h with
  | nil => rfl
  | cons hline _ ih =>
    rw [List.flatten_cons, got_append, List.count_append, hline, count_line, ih,
      List.length_cons, List.map_cons, List.sum_cons]
    omega

end ConsoleFormat

namespace Console

variable {W : Type} [Writer W]

theorem isSome_run?_accepting (h : Accepting W) (c : Console W) (ts : List (Event × (W → W))) :
    (c.run? ts).isSome := by
  by_contra hnone
  rw [Option.not_isSome_iff_eq_none] at hnone
  obtain ⟨-, -, rest, w, hne, -, hendless⟩ := exists_endless_of_run? hnone
  obtain ⟨b, rest, rfl⟩ := List.exists_cons_of_ne_nil hne
  obtain ⟨n, hn⟩ := h b rest w
  exact Answer.noConfusion (hn.symm.trans (hendless 0))

/-- An accepting writer gets the line of every event, which ends with a newline and has as many
more as the texts that are shown as they are: none in JSON. So the lines are as many as the events
if and only if none of those texts has a newline. -/
theorem newlines_got (h : Accepting W) (c : Console W) (ts : List (Event × (W → W))) :
    ∃ after, c.taped.run? (paged ts) = some after ∧ c.run? ts = some after.untaped ∧
      got after.writer.answers = (after.writer.pages.map got).flatten ∧
      List.Forall₂ (fun t page => ∃ line, got page = line ++ [newline] ∧
        line.count newline = c.format.breaks t.1) ts after.writer.pages ∧
      (got after.writer.answers).count newline =
        ts.length + (ts.map fun t => c.format.breaks t.1).sum ∧
      ((got after.writer.answers).count newline = ts.length ↔
        ∀ t ∈ ts, c.format.breaks t.1 = 0) := by
  obtain ⟨after, hrun⟩ := Option.isSome_iff_exists.mp (isSome_run?_accepting h.taped c.taped _)
  obtain ⟨hanswers, hpages, -⟩ := pages_run hrun
  have hlines : List.Forall₂ (fun t page => got page = c.format.line t.1) ts after.writer.pages :=
    hpages.imp fun t page ⟨ok, hwritten, hok⟩ => (hok h ▸ hwritten).got_eq
  have hcount : (got after.writer.answers).count newline =
      ts.length + (ts.map fun t => c.format.breaks t.1).sum := by
    rw [hanswers]
    exact ConsoleFormat.count_pages hlines
  have hplain : c.run? ts = some after.untaped := by
    have huntaped : c.run? ts = _ := run?_untaped c.taped ts
    rw [huntaped, hrun]
    rfl
  refine ⟨after, hrun, hplain, ?_, hlines.imp fun t page hline => ?_, hcount, ?_⟩
  · rw [hanswers, got_flatten]
  · refine ⟨utf8 (c.format.render t.1), ?_, ?_⟩
    · rw [hline, ConsoleFormat.line_eq]
    · rw [count_newline_utf8, ConsoleFormat.count_render]
  · rw [hcount, Nat.add_eq_left, List.sum_eq_zero_iff, List.forall_mem_map]

/-- The same text on three consoles: a line of JSON, but three lines where it is shown as it is. -/
theorem newlines_got_formats :
    let e : Event := ⟨.warn, "robot.nav", 0, "a\nb\n", none⟩
    let lines (format : ConsoleFormat) (n : Nat) : Prop :=
      ∃ after, (taped (⟨format, {}⟩ : Console Transcript)).run? (paged [(e, id)]) = some after ∧
        (got after.writer.answers).count newline = n
    Accepting Transcript ∧ lines .json 1 ∧ lines .raw 3 ∧ lines .pretty 3 := by
  intro e lines
  have hlines (format : ConsoleFormat) : lines format (1 + format.breaks e) := by
    obtain ⟨after, hrun, -, -, -, hcount, -⟩ :=
      newlines_got accepting_transcript ⟨format, {}⟩ [(e, id)]
    exact ⟨after, hrun, hcount⟩
  have hbreaks : ConsoleFormat.raw.breaks e = 2 ∧ ConsoleFormat.pretty.breaks e = 2 := by decide
  have hraw := hlines .raw
  have hpretty := hlines .pretty
  rw [hbreaks.1] at hraw
  rw [hbreaks.2] at hpretty
  exact ⟨accepting_transcript, hlines .json, hraw, hpretty⟩

/-- A message with a newline in it makes the line of another event: what is shown of one event is
what is shown of two. -/
theorem newline_forges_line :
    let c : Console Transcript := ⟨.pretty, {}⟩
    let low : Event := ⟨.info, "robot.nav", 0, "low", none⟩
    let stop : Event := ⟨.fatal, "robot.arm", 0, "stop", none⟩
    let forged : Event :=
      ⟨.info, "robot.nav", 0, "low\n[FATAL] [0.000000000] [robot.arm]: stop", none⟩
    (c.handle forged).map (·.writer) = ((c.handle low).bind (·.handle stop)).map (·.writer) ∧
      (c.handle forged).map (·.writer.taken.toList.count newline) = some 2 := by
  intro c low stop forged
  rw [handle_transcript, handle_transcript, Option.bind_some, handle_transcript]
  decide

end Console

end LogRouting
