import LogRouting.Console
import LogRouting.Proofs.Text
import Mathlib.Data.List.Forall2
/-!
What a console shows through a writer that may take less than it is offered, may be interrupted and
may fail: of every event a first part of its line, and the whole line unless a write failed. What
was not taken never comes up again. Main statement: `lines_got`.
-/
namespace LogRouting

/-- What a writer took of an offer, unless it failed. When it was interrupted it took nothing. -/
abbrev Taken := Option (List UInt8)

namespace Writer

def taken (bytes : List UInt8) : Answer → Taken
  | .took (n + 1) => some (bytes.take (n + 1))
  | .interrupted => some []
  | .took 0 | .failed => none

theorem taken_eq_none {bytes : List UInt8} {answer : Answer} (hi : answer ≠ .interrupted)
    (hn : ∀ n, answer ≠ .took (n + 1)) : taken bytes answer = none := by
  cases answer with
  | took n =>
    cases n with
    | zero => rfl
    | succ n => exact absurd rfl (hn n)
  | interrupted => exact absurd rfl hi
  | failed => rfl

def got (answers : List Taken) : List UInt8 :=
  answers.flatMap (·.getD [])

@[simp] theorem got_nil : got [] = [] := rfl

@[simp] theorem got_append (answers answers' : List Taken) :
    got (answers ++ answers') = got answers ++ got answers' :=
  List.flatMap_append

@[simp] theorem got_flatten (pages : List (List Taken)) :
    got pages.flatten = (pages.map got).flatten := by
  induction pages with
  | nil => rfl
  | cons page pages ih => simp [ih]

/-! Answers -/

/-- How the answers to a text can go, and whether all of it was taken. -/
inductive Written : List UInt8 → List Taken → Bool → Prop
  | whole : Written [] [] true
  | failed {b : UInt8} {bytes : List UInt8} : Written (b :: bytes) [none] false
  | more {taken rest : List UInt8} {answers : List Taken} {ok : Bool} :
    Written rest answers ok → Written (taken ++ rest) (some taken :: answers) ok

namespace Written

variable {bytes bytes' : List UInt8} {answers answers' : List Taken} {ok : Bool}

theorem got_isPrefix (h : Written bytes answers ok) : got answers <+: bytes := by
  induction h with
  | whole => exact List.nil_prefix
  | failed => exact List.nil_prefix
  | more _ ih => exact (List.prefix_append_right_inj _).mpr ih

theorem got_eq (h : Written bytes answers true) : got answers = bytes := by
  generalize hok : true = ok at h
  induction h with
  | whole => rfl
  | failed => cases hok
  | more _ ih => exact congrArg _ (ih hok)

theorem append (h : Written bytes answers true) (h' : Written bytes' answers' ok) :
    Written (bytes ++ bytes') (answers ++ answers') ok := by
  generalize hok : true = done at h
  induction h with
  | whole => exact h'
  | failed => cases hok
  | more _ ih =>
    rw [List.append_assoc]
    exact (ih hok).more

theorem stop (h : Written bytes answers false) (bytes' : List UInt8) :
    Written (bytes ++ bytes') answers false := by
  generalize hok : false = ok at h
  induction h with
  | whole => cases hok
  | failed => exact .failed
  | more _ ih =>
    rw [List.append_assoc]
    exact (ih hok).more

theorem take {b : UInt8} {n : Nat} (h : Written (bytes.drop n) answers ok) :
    Written (b :: bytes) (some (b :: bytes.take n) :: answers) ok := by
  have hmore : Written ((b :: bytes.take n) ++ bytes.drop n) _ ok := h.more
  rwa [List.cons_append, List.take_append_drop] at hmore

theorem interrupted (h : Written bytes answers ok) (n : Nat) :
    Written bytes (List.replicate n (some []) ++ answers) ok := by
  induction n with
  | zero => exact h
  | succ n ih =>
    have hmore : Written ([] ++ bytes) (some [] :: (List.replicate n (some []) ++ answers)) ok :=
      ih.more
    exact hmore

end Written

/-! Interruptions -/

section
variable {W : Type} [Writer W] {bytes : List UInt8} {w w' : W} {r : Answer × W}

def offered (bytes : List UInt8) : Nat → W → W
  | 0, w => w
  | n + 1, w => offered bytes n (write bytes w).2

def Endless (bytes : List UInt8) (w : W) : Prop :=
  ∀ n, (write bytes (offered bytes n w)).1 = .interrupted

theorem settle_of_answered (h : (write bytes w).1 ≠ .interrupted) :
    settle bytes w = some (write bytes w) := by
  rw [settle, dif_pos (ends_of_answered h), settled]
  split
  · rename_i next hwrite
    exact absurd (congrArg Prod.fst hwrite) h
  · rfl

theorem settle_of_interrupted (h : write bytes w = (.interrupted, w')) :
    settle bytes w = settle bytes w' := by
  unfold settle
  by_cases hends : Ends bytes w'
  · -- `w'` is all that can follow `w`, so that both end or neither does
    have hboth : Ends bytes w := by
      refine ⟨w, fun next hnext => ?_⟩
      cases h.symm.trans hnext
      exact hends
    rw [dif_pos hboth, dif_pos hends, settled]
    split
    · rename_i next hnext
      cases h.symm.trans hnext
      rfl
    · rename_i hanswered
      exact absurd h (hanswered w')
  · have hnever : ¬Ends bytes w := fun hboth => hends (hboth.inv h)
    rw [dif_neg hnever, dif_neg hends]

/-- The first answer that is no interruption, after any number of them. -/
inductive Settles (bytes : List UInt8) : W → Answer × W → Prop
  | answered {w : W} : (write bytes w).1 ≠ .interrupted → Settles bytes w (write bytes w)
  | again {w w' : W} {r : Answer × W} : write bytes w = (.interrupted, w') →
    Settles bytes w' r → Settles bytes w r

theorem settles_settled (h : Ends bytes w) : ∃ r, settle bytes w = some r ∧ Settles bytes w r := by
  induction h with
  | intro w _ ih =>
    by_cases hanswered : (write bytes w).1 = .interrupted
    · have hwrite : write bytes w = (.interrupted, (write bytes w).2) := Prod.ext hanswered rfl
      obtain ⟨r, hr, hsettles⟩ := ih _ hwrite
      exact ⟨r, (settle_of_interrupted hwrite).trans hr, .again hwrite hsettles⟩
    · exact ⟨_, settle_of_answered hanswered, .answered hanswered⟩

theorem settle_eq_some_iff : settle bytes w = some r ↔ Settles bytes w r := by
  constructor
  · intro h
    by_cases hends : Ends bytes w
    · obtain ⟨r', hr', hsettles⟩ := settles_settled hends
      rw [h, Option.some.injEq] at hr'
      rwa [hr']
    · rw [settle, dif_neg hends] at h
      cases h
  · intro h
    induction h with
    | answered hanswered => exact settle_of_answered hanswered
    | again hwrite _ ih => rwa [settle_of_interrupted hwrite]

theorem Settles.answer_ne (h : Settles bytes w r) : r.1 ≠ .interrupted := by
  induction h with
  | answered hanswered => exact hanswered
  | again _ _ ih => exact ih

private theorem ends_of_offered {n : Nat} (h : (write bytes (offered bytes n w)).1 ≠ .interrupted) :
    Ends bytes w := by
  induction n generalizing w with
  | zero => exact ends_of_answered h
  | succ n ih =>
    refine ⟨w, fun next hnext => ih ?_⟩
    rwa [offered, show write bytes w = (.interrupted, next) from hnext] at h

theorem settle_eq_none_iff : settle bytes w = none ↔ Endless bytes w := by
  constructor
  · intro h n
    by_contra hn
    rw [settle, dif_pos (ends_of_offered hn)] at h
    cases h
  · intro h
    refine Option.eq_none_iff_forall_ne_some.mpr fun r hr => ?_
    have hsettles := settle_eq_some_iff.mp hr
    clear hr
    induction hsettles with
    | answered hanswered => exact hanswered (h 0)
    | again hwrite _ ih =>
      refine ih fun n => ?_
      have hnext := h (n + 1)
      rwa [offered, hwrite] at hnext

/-- Text is written or fails to be, unless the writer is interrupted for ever at some of it. -/
theorem exists_endless (h : writeAll bytes w = none) :
    ∃ rest w', rest ≠ [] ∧ rest <:+ bytes ∧ Endless rest (w' : W) := by
  fun_induction writeAll bytes w with
  | case1 | case3 => cases h
  | case2 w b bytes n w' _ ih =>
    obtain ⟨rest, w'', hne, hrest, hendless⟩ := ih h
    have hsuffix : bytes.drop n <:+ b :: bytes :=
      (List.drop_suffix n bytes).trans (List.suffix_cons b bytes)
    exact ⟨rest, w'', hne, hrest.trans hsuffix, hendless⟩
  | case4 w b bytes hnever =>
    exact ⟨b :: bytes, w, List.cons_ne_nil b bytes, List.suffix_refl _,
      settle_eq_none_iff.mp hnever⟩

end

end Writer

/-- A writer with its answers: those on the page that is being filled, and the pages before it. -/
structure Taped (W : Type) where
  writer : W
  page : List Taken := []
  pages : List (List Taken) := []

namespace Taped

open Writer

variable {W : Type} [Writer W]

noncomputable instance : Writer (Taped W) where
  write bytes t :=
    let (answer, writer) := Writer.write bytes t.writer
    (answer, { t with writer, page := t.page ++ [taken bytes answer] })
  settles _ _ := Classical.propDecidable _

def turnPage (change : W → W) (t : Taped W) : Taped W :=
  ⟨change t.writer, [], t.pages ++ [t.page]⟩

def answers (t : Taped W) : List Taken :=
  t.pages.flatten ++ t.page

variable {bytes bytes' : List UInt8} {t t' t'' : Taped W} {answer : Answer} {ok : Bool}
  {given given' : List Taken}

theorem write_writer (bytes : List UInt8) (t : Taped W) :
    Writer.write bytes t.writer =
      ((Writer.write bytes t).1, (Writer.write bytes t).2.writer) := rfl

@[simp] theorem page_write (bytes : List UInt8) (t : Taped W) :
    (Writer.write bytes t).2.page = t.page ++ [taken bytes (Writer.write bytes t).1] := rfl

@[simp] private theorem offered_writer (bytes : List UInt8) (n : Nat) (t : Taped W) :
    (offered bytes n t).writer = offered bytes n t.writer := by
  induction n generalizing t with
  | zero => rfl
  | succ n ih => exact ih _

theorem settles_writer {r : Answer × Taped W} (h : Settles bytes t r) :
    Settles bytes t.writer (r.1, r.2.writer) := by
  induction h with
  | answered hne => exact .answered hne
  | @again t t' r hwrite _ ih =>
    have hwriter := write_writer bytes t
    rw [hwrite] at hwriter
    exact .again hwriter ih

theorem settle_writer (bytes : List UInt8) (t : Taped W) :
    settle bytes t.writer = (settle bytes t).map fun r => (r.1, r.2.writer) := by
  cases h : settle bytes t with
  | some r => exact settle_eq_some_iff.mpr (settles_writer (settle_eq_some_iff.mp h))
  | none =>
    refine settle_eq_none_iff.mpr fun n => ?_
    rw [← offered_writer]
    exact settle_eq_none_iff.mp h n

theorem writeAll_writer (bytes : List UInt8) (t : Taped W) :
    writeAll bytes t.writer = (writeAll bytes t).map fun r => (r.1, r.2.writer) := by
  fun_induction writeAll bytes t with
  | case1 t => rw [writeAll, Option.map_some]
  | case2 t b bytes n t' hsettle ih =>
    rw [writeAll, settle_writer, hsettle]
    exact ih
  | case3 t b bytes answer t' hfailed hsettle =>
    rw [writeAll, settle_writer, hsettle]
    cases answer with
    | took n =>
      cases n with
      | zero => rfl
      | succ n => exact absurd rfl (hfailed n)
    | interrupted | failed => rfl
  | case4 t b bytes hnever =>
    rw [writeAll, settle_writer, hnever]
    rfl

omit [Writer W] in
structure Wrote (bytes : List UInt8) (given : List Taken) (t t' : Taped W) (ok : Bool) : Prop where
  page_eq : t'.page = t.page ++ given
  pages_eq : t'.pages = t.pages
  written : Written bytes given ok

omit [Writer W] in
theorem Wrote.append (h : Wrote bytes given t t' true) (h' : Wrote bytes' given' t' t'' ok) :
    Wrote (bytes ++ bytes') (given ++ given') t t'' ok where
  page_eq := by rw [h'.page_eq, h.page_eq, List.append_assoc]
  pages_eq := h'.pages_eq.trans h.pages_eq
  written := h.written.append h'.written

theorem page_settles {r : Answer × Taped W} (h : Settles bytes t r) :
    r.2.pages = t.pages ∧
      ∃ n, r.2.page = t.page ++ (List.replicate n (some []) ++ [taken bytes r.1]) := by
  induction h with
  | answered _ => exact ⟨rfl, 0, rfl⟩
  | @again t t' r hwrite _ ih =>
    obtain ⟨hpages, n, hpage⟩ := ih
    have hfirst := page_write bytes t
    have hsame : (Writer.write bytes t).2.pages = t.pages := rfl
    rw [hwrite] at hfirst hsame
    refine ⟨hpages.trans hsame, n + 1, ?_⟩
    rw [hpage, hfirst, List.append_assoc, List.replicate_succ]
    rfl

theorem wrote_writeAll (h : writeAll bytes t = some (ok, t')) :
    ∃ given, Wrote bytes given t t' ok := by
  fun_induction writeAll bytes t with
  | case1 t =>
    cases h
    exact ⟨[], (List.append_nil _).symm, rfl, .whole⟩
  | case2 t b bytes n t₁ hsettle ih =>
    obtain ⟨hpages, k, hpage⟩ := page_settles (settle_eq_some_iff.mp hsettle)
    obtain ⟨given, hwrote⟩ := ih h
    refine ⟨_, ?_, hwrote.pages_eq.trans hpages, hwrote.written.take.interrupted k⟩
    rw [hwrote.page_eq, hpage]
    simp [taken]
  | case3 t b bytes answer t₁ hfailed hsettle =>
    cases h
    have hsettles := settle_eq_some_iff.mp hsettle
    obtain ⟨hpages, k, hpage⟩ := page_settles hsettles
    rw [taken_eq_none hsettles.answer_ne fun n hn => hfailed n hn] at hpage
    exact ⟨_, hpage, hpages, Written.failed.interrupted k⟩
  | case4 => cases h

end Taped

/-! Writers that take everything -/

namespace Writer

variable {W : Type} [Writer W]

/-- A writer that takes something of every offer, so that it takes all of it in the end. -/
def Accepting (W : Type) [Writer W] : Prop :=
  ∀ (b : UInt8) (bytes : List UInt8) (w : W), ∃ n, (write (b :: bytes) w).1 = .took (n + 1)

theorem Accepting.writeAll (h : Accepting W) (bytes : List UInt8) (w : W) :
    ∃ w', writeAll bytes w = some (true, w') := by
  have hsettle (b : UInt8) (bytes : List UInt8) (w : W) :
      settle (b :: bytes) w = some (write (b :: bytes) w) := by
    obtain ⟨n, hn⟩ := h b bytes w
    exact settle_of_answered fun hi => Answer.noConfusion (hn.symm.trans hi)
  fun_induction Writer.writeAll bytes w with
  | case1 w => exact ⟨w, rfl⟩
  | case2 w b bytes n w' _ ih => exact ih
  | case3 w b bytes answer w' hfailed hanswer =>
    obtain ⟨n, hn⟩ := h b bytes w
    rw [hsettle, Option.some.injEq] at hanswer
    rw [hanswer] at hn
    exact absurd hn (hfailed n)
  | case4 w b bytes hnever =>
    rw [hsettle] at hnever
    cases hnever

theorem accepting_transcript : Accepting Transcript :=
  fun _ bytes _ => ⟨bytes.length, rfl⟩

theorem Accepting.taped (h : Accepting W) : Accepting (Taped W) :=
  fun b bytes t => h b bytes t.writer

/-! Writers that run out -/

/-- A writer that takes as many more bytes as it has `left`, at its own pace, and then fails. -/
structure Rationed (left : W → Nat) : Prop where
  took {b bytes w n w'} : write (b :: bytes) w = (.took n, w') →
    n ≤ bytes.length + 1 ∧ left w = n + left w' ∧ (n = 0 → left w' = 0)
  interrupted {b bytes w w'} : write (b :: bytes) w = (.interrupted, w') → left w' = left w
  failed {b bytes w w'} : write (b :: bytes) w = (.failed, w') → left w = 0 ∧ left w' = 0

/-- Bytes go from what is left to what was got, and a write fails only once nothing is left. -/
structure Spent (left : W → Nat) (t t' : Taped W) (ok : Bool) : Prop where
  total : (got t'.page).length + left t'.writer = (got t.page).length + left t.writer
  empty : ok = false → left t'.writer = 0

theorem Rationed.write {left : W → Nat} (h : Rationed left) {b : UInt8} {bytes : List UInt8}
    {w w' : W} {answer : Answer} (hwrite : Writer.write (b :: bytes) w = (answer, w')) :
    (got [taken (b :: bytes) answer]).length + left w' = left w ∧
      (taken (b :: bytes) answer = none → left w' = 0) := by
  cases answer with
  | took n =>
    obtain ⟨hn, hleft, hzero⟩ := h.took hwrite
    rw [hleft]
    cases n with
    | zero => exact ⟨rfl, fun _ => hzero rfl⟩
    | succ n =>
      have hlength : (got [taken (b :: bytes) (.took (n + 1))]).length = n + 1 := by
        simpa [got, taken] using Nat.min_eq_left (Nat.le_of_succ_le_succ hn)
      exact ⟨by rw [hlength], fun hnone => by cases hnone⟩
  | interrupted =>
    rw [h.interrupted hwrite]
    exact ⟨Nat.zero_add _, fun hnone => by cases hnone⟩
  | failed =>
    obtain ⟨hleft, hzero⟩ := h.failed hwrite
    rw [hleft, hzero]
    exact ⟨rfl, fun _ => rfl⟩

theorem Rationed.write_taped {left : W → Nat} (h : Rationed left) (b : UInt8)
    (bytes : List UInt8) (t : Taped W) :
    Spent left t (Writer.write (b :: bytes) t).2
      (taken (b :: bytes) (Writer.write (b :: bytes) t).1).isSome := by
  obtain ⟨hleft, hzero⟩ := h.write (Taped.write_writer (b :: bytes) t)
  refine ⟨?_, fun hnone => hzero (by simpa using hnone)⟩
  rw [Taped.page_write, got_append, List.length_append, ← hleft, Nat.add_assoc]

theorem Rationed.settles {left : W → Nat} (h : Rationed left) {b : UInt8} {bytes : List UInt8}
    {t : Taped W} {r : Answer × Taped W} (hr : Settles (b :: bytes) t r) :
    Spent left t r.2 (taken (b :: bytes) r.1).isSome := by
  induction hr with
  | @answered t _ => exact h.write_taped b bytes t
  | @again t t' r hwrite _ ih =>
    have hfirst := (h.write_taped b bytes t).total
    rw [hwrite] at hfirst
    exact ⟨ih.total.trans hfirst, ih.empty⟩

theorem Rationed.writeAll {left : W → Nat} (h : Rationed left) {bytes : List UInt8}
    {t t' : Taped W} {ok : Bool} (hw : writeAll bytes t = some (ok, t')) : Spent left t t' ok := by
  fun_induction Writer.writeAll bytes t with
  | case1 t =>
    cases hw
    exact ⟨rfl, by simp⟩
  | case2 t b bytes n t₁ hsettle ih =>
    have hfirst := h.settles (settle_eq_some_iff.mp hsettle)
    have hrest := ih hw
    exact ⟨hrest.total.trans hfirst.total, hrest.empty⟩
  | case3 t b bytes answer t₁ hfailed hsettle =>
    cases hw
    have hsettles := settle_eq_some_iff.mp hsettle
    have hspent := h.settles hsettles
    have hnone : taken (b :: bytes) answer = none :=
      taken_eq_none hsettles.answer_ne fun n hn => hfailed n hn
    exact ⟨hspent.total, fun _ => hspent.empty (congrArg Option.isSome hnone)⟩
  | case4 => cases hw

end Writer

/-! Consoles -/

open Writer

namespace ConsoleFormat

def line (format : ConsoleFormat) (e : Event) : List UInt8 :=
  utf8 (format.render e ++ ['\n'])

def bytes (format : ConsoleFormat) (es : List Event) : List UInt8 :=
  es.flatMap format.line

@[simp] theorem bytes_nil (format : ConsoleFormat) : format.bytes [] = [] := rfl

@[simp] theorem bytes_cons (format : ConsoleFormat) (e : Event) (es : List Event) :
    format.bytes (e :: es) = format.line e ++ format.bytes es := rfl

end ConsoleFormat

namespace Console

variable {W : Type} [Writer W]

/-- Shows an event. Then the writer may change in any way, as when it is flushed or when room is
made for more. -/
def turn? (c : Console W) (t : Event × (W → W)) : Option (Console W) :=
  (c.handle t.1).map fun c => { c with writer := t.2 c.writer }

def run? (c : Console W) (ts : List (Event × (W → W))) : Option (Console W) :=
  ts.foldlM turn? c

def taped (c : Console W) : Console (Taped W) :=
  ⟨c.format, { writer := c.writer }⟩

def untaped (c : Console (Taped W)) : Console W :=
  ⟨c.format, c.writer.writer⟩

def paged (ts : List (Event × (W → W))) : List (Event × (Taped W → Taped W)) :=
  ts.map fun t => (t.1, Taped.turnPage t.2)

/-! One event -/

section
variable {line : List Char} {c : Console (Taped W)} {t t' : Taped W} {ok : Bool}

private theorem writeLine_writer (line : List Char) (t : Taped W) :
    writeLine line t.writer = (writeLine line t).map fun r => (r.1, r.2.writer) := by
  rw [writeLine, writeLine, Taped.writeAll_writer]
  rcases writeAll (utf8 line) t with _ | ⟨_ | _, t'⟩
  · rfl
  · rfl
  · exact Taped.writeAll_writer (utf8 ['\n']) t'

theorem writeLine_cases (h : writeLine line t = some (ok, t')) :
    (∃ t₁, writeAll (utf8 line) t = some (true, t₁) ∧
        writeAll (utf8 ['\n']) t₁ = some (ok, t')) ∨
      (ok = false ∧ writeAll (utf8 line) t = some (false, t')) := by
  rw [writeLine] at h
  rcases hline : writeAll (utf8 line) t with _ | ⟨_ | _, t₁⟩
  · rw [hline] at h
    cases h
  · rw [hline] at h
    cases h
    exact .inr ⟨rfl, rfl⟩
  · rw [hline] at h
    exact .inl ⟨t₁, rfl, h⟩

theorem wrote_writeLine (h : writeLine line t = some (ok, t')) :
    ∃ given, Taped.Wrote (utf8 (line ++ ['\n'])) given t t' ok := by
  rw [utf8_append]
  rcases writeLine_cases h with ⟨t₁, hline, hend⟩ | ⟨rfl, hline⟩
  · obtain ⟨given, hwrote⟩ := Taped.wrote_writeAll hline
    obtain ⟨given', hwrote'⟩ := Taped.wrote_writeAll hend
    exact ⟨given ++ given', hwrote.append hwrote'⟩
  · obtain ⟨given, hwrote⟩ := Taped.wrote_writeAll hline
    exact ⟨given, hwrote.page_eq, hwrote.pages_eq, hwrote.written.stop _⟩

theorem spent_writeLine {left : W → Nat} (hr : Rationed left)
    (h : writeLine line t = some (ok, t')) : Spent left t t' ok := by
  rcases writeLine_cases h with ⟨t₁, hline, hend⟩ | ⟨rfl, hline⟩
  · have hspent := hr.writeAll hend
    exact ⟨hspent.total.trans (hr.writeAll hline).total, hspent.empty⟩
  · exact hr.writeAll hline

theorem handle_untaped (e : Event) (c : Console (Taped W)) :
    c.untaped.handle e = (c.handle e).map untaped := by
  rw [handle, handle, untaped, writeLine_writer, Option.map_map, Option.map_map]
  rfl

/-- What comes of an event: the answers to its line fill a page, and the writer changes. -/
structure Turned (t : Event × (W → W)) (page : List Taken) (ok : Bool) (after : Taped W)
    (c c' : Console (Taped W)) : Prop where
  line_eq : writeLine (c.format.render t.1) c.writer = some (ok, after)
  written : Written (c.format.line t.1) page ok
  page_eq : after.page = page
  pages_eq : after.pages = c.writer.pages
  next_eq : c' = ⟨c.format, after.turnPage t.2⟩

variable {turn : Event × (W → W)} {page : List Taken} {after : Taped W} {c' : Console (Taped W)}

private theorem exists_turned (hempty : c.writer.page = [])
    (h : c.turn? (turn.1, Taped.turnPage turn.2) = some c') :
    ∃ page ok after, Turned turn page ok after c c' := by
  obtain ⟨c₁, hhandle, hnext⟩ := Option.map_eq_some_iff.mp h
  obtain ⟨⟨ok, after⟩, hline, rfl⟩ := Option.map_eq_some_iff.mp hhandle
  obtain ⟨page, hwrote⟩ := wrote_writeLine hline
  have hpage : after.page = page := by rw [hwrote.page_eq, hempty, List.nil_append]
  exact ⟨page, ok, after, hline, hwrote.written, hpage, hwrote.pages_eq, hnext.symm⟩

private theorem Turned.pages_next (h : Turned turn page ok after c c') :
    c'.writer.pages = c.writer.pages ++ [page] := by
  rw [h.next_eq, ← h.pages_eq, ← h.page_eq]
  rfl

private theorem Turned.ok_of_accepting (h : Turned turn page ok after c c') (ha : Accepting W) :
    ok = true := by
  rcases writeLine_cases h.line_eq with ⟨t₁, -, hend⟩ | ⟨-, hline⟩
  · obtain ⟨t₂, ht₂⟩ := ha.taped.writeAll (utf8 ['\n']) t₁
    rw [ht₂] at hend
    cases hend
    rfl
  · obtain ⟨t₂, ht₂⟩ := ha.taped.writeAll (utf8 (c.format.render turn.1)) c.writer
    rw [ht₂] at hline
    cases hline

theorem Turned.rationed (h : Turned turn page ok after c c') {left : W → Nat}
    (hr : Rationed left) (hkept : ∀ w, left (turn.2 w) = left w) (hempty : c.writer.page = []) :
    got page = (c.format.line turn.1).take (left c.writer.writer) ∧
      left c'.writer.writer = left c.writer.writer - (c.format.line turn.1).length := by
  obtain ⟨htotal, hzero⟩ := spent_writeLine hr h.line_eq
  rw [h.page_eq, hempty, got_nil, List.length_nil, Nat.zero_add] at htotal
  have hnext : left c'.writer.writer = left after.writer := by
    rw [h.next_eq]
    exact hkept after.writer
  rw [hnext]
  cases ok with
  | true =>
    rw [h.written.got_eq] at htotal ⊢
    exact ⟨(List.take_of_length_le (by omega)).symm, by omega⟩
  | false =>
    have hprefix := h.written.got_isPrefix
    have hle := hprefix.length_le
    rw [hzero rfl] at htotal ⊢
    refine ⟨?_, by omega⟩
    rw [← htotal]
    exact List.prefix_iff_eq_take.mp hprefix

end

/-! One event after another -/

@[simp] theorem run?_cons (c : Console W) (t : Event × (W → W)) (ts : List (Event × (W → W))) :
    c.run? (t :: ts) = (c.turn? t).bind (·.run? ts) := rfl

theorem run?_untaped (c : Console (Taped W)) (ts : List (Event × (W → W))) :
    c.untaped.run? ts = (c.run? (paged ts)).map untaped := by
  induction ts generalizing c with
  | nil => rfl
  | cons t ts ih =>
    have hturn : c.untaped.turn? t = (c.turn? (t.1, Taped.turnPage t.2)).map untaped := by
      rw [turn?, turn?, handle_untaped, Option.map_map, Option.map_map]
      rfl
    rw [paged, List.map_cons, run?_cons, run?_cons, hturn]
    cases c.turn? (t.1, Taped.turnPage t.2) with
    | none => rfl
    | some c' => exact ih c'

theorem filled_run {c after : Console (Taped W)} {ts : List (Event × (W → W))}
    (hempty : c.writer.page = []) (h : c.run? (paged ts) = some after) :
    after.writer.page = [] ∧ ∃ pages, after.writer.pages = c.writer.pages ++ pages ∧
      List.Forall₂ (fun t page => ∃ ok, Written (c.format.line t.1) page ok ∧
        (Accepting W → ok = true)) ts pages ∧
      ∀ left : W → Nat, Rationed left → (∀ t ∈ ts, ∀ w, left (t.2 w) = left w) →
        got pages.flatten = (c.format.bytes (ts.map (·.1))).take (left c.writer.writer) := by
  induction ts generalizing c with
  | nil =>
    cases h
    exact ⟨hempty, [], (List.append_nil _).symm, .nil, fun _ _ _ => List.take_nil.symm⟩
  | cons t ts ih =>
    rw [paged, List.map_cons, run?_cons] at h
    obtain ⟨c', hturn, hrest⟩ := Option.bind_eq_some_iff.mp h
    obtain ⟨page, ok, written, hturned⟩ := exists_turned hempty hturn
    have hnext : c'.format = c.format ∧ c'.writer.page = [] := by
      rw [hturned.next_eq]
      exact ⟨rfl, rfl⟩
    obtain ⟨hend, pages, hpages, hforall, htake⟩ := ih hnext.2 hrest
    rw [hnext.1] at hforall htake
    refine ⟨hend, page :: pages, ?_, .cons ⟨ok, hturned.written, hturned.ok_of_accepting⟩ hforall,
      fun left hr hkept => ?_⟩
    · rw [hpages, hturned.pages_next, List.append_assoc]
      rfl
    · obtain ⟨hgot, hleft⟩ := hturned.rationed hr (hkept t List.mem_cons_self) hempty
      have hmore := htake left hr fun t' ht' => hkept t' (List.mem_cons_of_mem t ht')
      rw [List.flatten_cons, got_append, hgot, hmore, hleft, List.map_cons,
        ConsoleFormat.bytes_cons, List.take_append]

theorem pages_run {c : Console W} {ts : List (Event × (W → W))} {after : Console (Taped W)}
    (h : c.taped.run? (paged ts) = some after) :
    after.writer.answers = after.writer.pages.flatten ∧
      List.Forall₂ (fun t page => ∃ ok, Written (c.format.line t.1) page ok ∧
        (Accepting W → ok = true)) ts after.writer.pages ∧
      ∀ left : W → Nat, Rationed left → (∀ t ∈ ts, ∀ w, left (t.2 w) = left w) →
        got after.writer.pages.flatten =
          (c.format.bytes (ts.map (·.1))).take (left c.writer) := by
  obtain ⟨hend, pages, hpages, hforall, htake⟩ := filled_run (c := c.taped) rfl h
  rw [taped, List.nil_append] at hpages
  rw [Taped.answers, hpages, hend, List.append_nil]
  exact ⟨rfl, hforall, htake⟩

theorem exists_endless_of_handle {e : Event} {c : Console W} (h : c.handle e = none) :
    ∃ rest w, rest ≠ [] ∧ rest <:+: c.format.line e ∧ Endless rest (w : W) := by
  have hsplit : c.format.line e = utf8 (c.format.render e) ++ utf8 ['\n'] := utf8_append _ _
  rw [handle, Option.map_eq_none_iff, writeLine] at h
  rcases hline : writeAll (utf8 (c.format.render e)) c.writer with _ | ⟨_ | _, w'⟩
  · obtain ⟨rest, w, hne, hrest, hendless⟩ := exists_endless hline
    exact ⟨rest, w, hne, hsplit ▸ hrest.isInfix.trans (List.prefix_append _ _).isInfix, hendless⟩
  · rw [hline] at h
    cases h
  · rw [hline] at h
    obtain ⟨rest, w, hne, hrest, hendless⟩ := exists_endless h
    exact ⟨rest, w, hne, hsplit ▸ hrest.isInfix.trans (List.suffix_append _ _).isInfix, hendless⟩

theorem exists_endless_of_run? {c : Console W} {ts : List (Event × (W → W))}
    (h : c.run? ts = none) :
    ∃ t ∈ ts, ∃ rest w, rest ≠ [] ∧ rest <:+: c.format.line t.1 ∧ Endless rest (w : W) := by
  induction ts generalizing c with
  | nil => cases h
  | cons t ts ih =>
    rw [run?_cons] at h
    cases hturn : c.turn? t with
    | none =>
      exact ⟨t, List.mem_cons_self, exists_endless_of_handle (Option.map_eq_none_iff.mp hturn)⟩
    | some c' =>
      have hformat : c'.format = c.format := by
        obtain ⟨c₁, hhandle, rfl⟩ := Option.map_eq_some_iff.mp hturn
        obtain ⟨_, -, rfl⟩ := Option.map_eq_some_iff.mp hhandle
        rfl
      rw [hturn, Option.bind_some] at h
      obtain ⟨t', ht', hrest⟩ := ih h
      exact ⟨t', List.mem_cons_of_mem t ht', hformat ▸ hrest⟩

@[simp] theorem writeAll_transcript (bytes : List UInt8) (w : Transcript) :
    Writer.writeAll bytes w = some (true, ⟨w.taken ++ bytes⟩) := by
  cases bytes with
  | nil =>
    rw [Writer.writeAll]
    simp
  | cons b bytes =>
    have hsettle : settle (b :: bytes) w =
        some (.took (bytes.length + 1), (⟨w.taken ++ (b :: bytes)⟩ : Transcript)) :=
      settle_of_answered Answer.noConfusion
    rw [Writer.writeAll, hsettle]
    dsimp only
    rw [List.drop_length, Writer.writeAll]

@[simp] theorem handle_transcript (e : Event) (c : Console Transcript) :
    c.handle e = some { c with writer := ⟨c.writer.taken ++ c.format.line e⟩ } := by
  rw [handle, writeLine, writeAll_transcript]
  dsimp only
  rw [writeAll_transcript, ConsoleFormat.line, utf8_append]
  simp [← Array.toList_inj]

end Console

end LogRouting
