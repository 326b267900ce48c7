import LogRouting.Toml.Text
/-!
Whatever a string holds, the quotation that is chosen for it reads back as the string. The writer
and the reader are compared one character at a time: what is written for a character passes the
reader and gives that character. Main statement: `string?_quoted`.
-/
namespace LogRouting.Toml

namespace Quotation

def after (out : List Char) (p : List Char × List Char) : List Char × List Char :=
  (out ++ p.1, p.2)

@[simp] theorem after_nil : after [] = id := rfl

@[simp] theorem after_comp (out out' : List Char) :
    after out ∘ after out' = after (out ++ out') := by
  funext p
  simp [after]

/-- Reading a text leads from one mode to another and gives `out`, whatever follows. -/
def Passes (q : Quotation) (mode : Mode) (text out : List Char) (mode' : Mode) : Prop :=
  ∀ rest, q.scan mode (text ++ rest) = (q.scan mode' rest).map (after out)

variable {q : Quotation} {mode mode' mode'' : Mode} {c : Char} {text text' out out' : List Char}

theorem scan_cons (q : Quotation) (mode : Mode) (c : Char) (r : List Char) :
    q.scan mode (c :: r) =
      match q.step mode c with
      | .next out mode => (q.scan mode r).map (after out)
      | .close out taken => some (out, if taken then r else c :: r)
      | .bad => none := by
  cases h : q.step mode c <;> simp only [scan, h]
  rfl

theorem passes_of_step (h : q.step mode c = .next out mode') : q.Passes mode [c] out mode' := by
  intro rest
  rw [List.singleton_append, scan_cons, h]

theorem Passes.trans (h : q.Passes mode text out mode') (h' : q.Passes mode' text' out' mode'') :
    q.Passes mode (text ++ text') (out ++ out') mode'' := by
  intro rest
  rw [List.append_assoc, h, h', Option.map_map, after_comp]

theorem Passes.scan_eq {s rest tail : List Char} (h : q.Passes mode text out mode')
    (hs : q.scan mode' tail = some (s, rest)) :
    q.scan mode (text ++ tail) = some (out ++ s, rest) := by
  rw [h, hs]
  rfl

theorem scan_of_close {taken : Bool} {r : List Char} (h : q.step mode c = .close out taken) :
    q.scan mode (c :: r) = some (out, if taken then r else c :: r) := by
  rw [scan_cons, h]

theorem passes_plain (hq : c ≠ q.quote) (hb : c ≠ '\\' ∨ q.escapes = false)
    (hc : isControl c = false ∨ c = '\t') : q.Passes .text [c] [c] .text := by
  apply passes_of_step
  have hline : c ≠ '\n' ∧ c ≠ '\r' := by
    constructor <;> (intro h; subst h; rcases hc with hc | hc <;> revert hc <;> decide)
  have hescape : (q.escapes && decide (c = '\\')) = false := by
    rcases hb with hb | hb <;> simp [hb]
  have hcontrol : (isControl c && c ≠ '\t') = false := by
    rcases hc with hc | hc <;> simp [hc]
  simp only [step, textStep, hq, hescape, hline, hcontrol, if_false, decide_false, Bool.and_false,
    Bool.false_eq_true]

theorem passes_newline (hl : q.lines = true) (hq : q.quote ≠ '\n') :
    q.Passes .text ['\n'] ['\n'] .text := by
  apply passes_of_step
  simp [step, textStep, hq.symm, hl]

/-- Up to two quotes inside a text over lines are read as soon as something else follows. -/
private theorem scan_quotes {n : Nat} {r : List Char} (hn : n ≤ 2) (hc : c ≠ q.quote) :
    q.scan (.quotes n) (c :: r) =
      (q.scan .text (c :: r)).map (after (List.replicate n q.quote)) := by
  have hstep : q.step (.quotes n) c = (q.textStep c).after (List.replicate n q.quote) := by
    have hlt : ¬3 ≤ n := by omega
    simp only [step, quotesStep, hc, if_false, hlt]
  rw [scan_cons q (.quotes n), scan_cons q .text, hstep]
  simp only [step]
  cases q.textStep c with
  | next out mode => simp only [Step.after, Option.map_map, after_comp]
  | close out taken => rfl
  | bad => rfl

def afterQuotes : Nat → Mode
  | 0 => .text
  | n + 1 => .quotes (n + 1)

theorem passes_quote (n : Nat) (hl : q.lines = true) (hn : n < 4) :
    q.Passes (afterQuotes n) [q.quote] [] (afterQuotes (n + 1)) := by
  apply passes_of_step
  cases n with
  | zero => simp [afterQuotes, step, textStep, hl]
  | succ n =>
    have hne : n + 1 ≠ 4 := by omega
    simp [afterQuotes, step, quotesStep, hne]

theorem scan_afterQuotes {n : Nat} {r : List Char} (hn : n ≤ 2) (hc : c ≠ q.quote) :
    q.scan (afterQuotes n) (c :: r) =
      (q.scan .text (c :: r)).map (after (List.replicate n q.quote)) := by
  cases n with
  | zero => simp [afterQuotes]
  | succ n => exact scan_quotes hn hc

private theorem le_longestRun (x : Char) (n : Nat) (s : List Char) : n ≤ longestRun x n s := by
  induction s generalizing n with
  | nil => exact Nat.le_refl n
  | cons y s ih =>
    rw [longestRun]
    split
    · exact Nat.le_trans (Nat.le_succ n) (ih (n + 1))
    · exact Nat.le_max_left n _

/-- Three quotes end a text over lines; up to two quotes before them belong to it. -/
theorem scan_delimiter {n : Nat} {r : List Char} (hl : q.lines = true) (hn : n ≤ 2)
    (hc : c ≠ q.quote) :
    q.scan (afterQuotes n) (q.delimiter ++ c :: r) =
      some (List.replicate n q.quote, c :: r) := by
  have hdelimiter : q.delimiter = [q.quote] ++ ([q.quote] ++ [q.quote]) := by
    simp [delimiter, hl, List.replicate]
  have htwo := (passes_quote n hl (show n < 4 by omega)).trans
    (passes_quote (n + 1) hl (show n + 1 < 4 by omega))
  have hthird : q.scan (afterQuotes (n + 2)) (q.quote :: c :: r) =
      some (List.replicate n q.quote, c :: r) := by
    by_cases h : n = 2
    · subst h
      have hclose : q.step (.quotes 4) q.quote = .close [q.quote, q.quote] true := by
        simp [step, quotesStep]
      rw [afterQuotes, scan_of_close hclose]
      rfl
    · have hnext := passes_quote (n + 2) hl (by omega) (c :: r)
      have hclose : q.step (.quotes (n + 3)) c = .close (List.replicate n q.quote) false := by
        simp [step, quotesStep, hc]
      rw [List.singleton_append] at hnext
      rw [hnext, afterQuotes, scan_of_close hclose]
      rfl
  rw [hdelimiter, ← List.append_assoc, List.append_assoc _ [q.quote]]
  exact htwo.scan_eq hthird

private theorem scan_raw_lines {n : Nat} {s r : List Char} (hl : q.lines = true)
    (he : q.escapes = false) (hc : c ≠ q.quote)
    (hs : ∀ x ∈ s, isControl x = false ∨ x = '\t' ∨ x = '\n') (hn : n ≤ 2)
    (hrun : longestRun q.quote n s ≤ 2) :
    q.scan (afterQuotes n) (s ++ (q.delimiter ++ c :: r)) =
      some (List.replicate n q.quote ++ s, c :: r) := by
  induction s generalizing n with
  | nil =>
    rw [List.nil_append, List.append_nil]
    exact scan_delimiter hl hn hc
  | cons x s ih =>
    have hrest := fun y hy => hs y (List.mem_cons_of_mem x hy)
    by_cases hx : x = q.quote
    · subst hx
      rw [longestRun, if_pos rfl] at hrun
      have hn' : n + 1 ≤ 2 := Nat.le_trans (le_longestRun q.quote (n + 1) s) hrun
      have hquote := passes_quote n hl (show n < 4 by omega)
      rw [List.cons_append, ← List.singleton_append]
      rw [hquote.scan_eq (ih hrest hn' hrun), List.nil_append, List.replicate_succ']
      simp
    · rw [longestRun, if_neg hx] at hrun
      have hrun' : longestRun q.quote 0 s ≤ 2 := by omega
      have hplain : q.Passes .text [x] [x] .text := by
        rcases hs x List.mem_cons_self with hx' | hx' | hx'
        · exact passes_plain hx (.inr he) (.inl hx')
        · exact passes_plain hx (.inr he) (.inr hx')
        · subst hx'
          exact passes_newline hl (Ne.symm hx)
      have hread := hplain.scan_eq (ih hrest (Nat.zero_le 2) hrun')
      rw [List.singleton_append] at hread
      rw [List.cons_append, scan_afterQuotes hn hx, hread]
      rfl

private theorem scan_raw {s r : List Char} (hl : q.lines = false) (he : q.escapes = false)
    (hs : ∀ x ∈ s, (isControl x = false ∨ x = '\t') ∧ x ≠ q.quote) :
    q.scan .text (s ++ q.quote :: r) = some (s, r) := by
  induction s with
  | nil =>
    have hclose : q.step .text q.quote = .close [] true := by simp [step, textStep, hl]
    exact scan_of_close hclose
  | cons x s ih =>
    obtain ⟨hcontrol, hquote⟩ := hs x List.mem_cons_self
    have hplain := passes_plain hquote (.inr he) hcontrol
    exact hplain.scan_eq (ih fun y hy => hs y (List.mem_cons_of_mem x hy))

theorem passes_backslash (he : q.escapes = true) (hq : q.quote = '\x22') :
    q.Passes .text ['\\'] [] .escape := by
  apply passes_of_step
  simp [step, textStep, he, hq]

theorem passes_short (he : q.escapes = true) (hq : q.quote = '\x22') {x : Char}
    (hx : q.escapeStep x = .next [c] .text) : q.Passes .text ['\\', x] [c] .text :=
  (passes_backslash he hq).trans (passes_of_step hx)

theorem hexValue?_upperHexDigit : ∀ d < 16, Text.hexValue? (upperHexDigit d) = some d := by
  decide

theorem passes_digit {left value d : Nat} (hd : d < 16) :
    q.Passes (.code (left + 1) value) [upperHexDigit d] [] (.code left (16 * value + d)) := by
  apply passes_of_step
  simp [step, codeStep, hexValue?_upperHexDigit d hd]

private theorem passes_lastDigit {value d : Nat} (hd : d < 16) (hc : 16 * value + d = c.toNat) :
    q.Passes (.code 0 value) [upperHexDigit d] [c] .text := by
  apply passes_of_step
  have hvalid : c.toNat.isValidChar := c.valid
  simp [step, codeStep, hexValue?_upperHexDigit d hd, hc, hvalid]

private theorem passes_long (he : q.escapes = true) (hq : q.quote = '\x22') (hc : c.toNat < 128) :
    q.Passes .text
      ['\\', 'u', '0', '0', upperHexDigit (c.toNat / 16), upperHexDigit (c.toNat % 16)]
      [c] .text := by
  have hu : q.Passes .escape ['u'] [] (.code 3 0) := passes_of_step (by simp [step, escapeStep])
  have hzero : ∀ left, q.Passes (.code (left + 1) 0) ['0'] [] (.code left 0) :=
    fun left => passes_digit (by decide : 0 < 16)
  have hhigh : q.Passes (.code 1 0) [upperHexDigit (c.toNat / 16)] []
      (.code 0 (16 * 0 + c.toNat / 16)) := passes_digit (by omega)
  have hlow : q.Passes (.code 0 (16 * 0 + c.toNat / 16)) [upperHexDigit (c.toNat % 16)] [c]
      .text := passes_lastDigit (by omega) (by omega)
  exact (passes_backslash he hq).trans
    (hu.trans ((hzero 2).trans ((hzero 1).trans (hhigh.trans hlow))))

theorem escape?_cases {lines : Bool} (hc : escape? lines c = some text) :
    (∃ x, text = ['\\', x] ∧ ∀ q : Quotation, q.escapeStep x = .next [c] .text) ∨
      (isControl c = true ∧
        text = ['\\', 'u', '0', '0', upperHexDigit (c.toNat / 16),
          upperHexDigit (c.toNat % 16)]) := by
  unfold escape? at hc
  repeat' split at hc
  all_goals cases hc
  all_goals first
    | exact .inl ⟨_, rfl, fun q => by simp [escapeStep, *]⟩
    | exact .inr ⟨‹_›, rfl⟩

theorem passes_escape (he : q.escapes = true) (hq : q.quote = '\x22')
    (hc : escape? q.lines c = some text) : q.Passes .text text [c] .text := by
  rcases escape?_cases hc with ⟨x, rfl, hx⟩ | ⟨hcontrol, rfl⟩
  · exact passes_short he hq (hx q)
  · apply passes_long he hq
    simp only [isControl, Bool.or_eq_true, decide_eq_true_eq] at hcontrol
    omega

theorem passes_unquoted (he : q.escapes = true) (hq : q.quote = '\x22') (hc : c ≠ '\x22') :
    q.Passes .text ((escape? q.lines c).getD [c]) [c] .text := by
  cases ht : escape? q.lines c with
  | some text => exact passes_escape he hq ht
  | none =>
    rw [Option.getD_none]
    have hslash : c ≠ '\\' := by
      intro h
      simp [escape?, h] at ht
    by_cases hline : c = '\n'
    · have hl : q.lines = true := by
        cases hl : q.lines with
        | true => rfl
        | false => simp [escape?, hline, hl] at ht
      rw [hline]
      exact passes_newline hl (by rw [hq]; decide)
    · have hcontrol : isControl c = false := by
        cases hcontrol : isControl c with
        | false => rfl
        | true => grind [escape?]
      exact passes_plain (by rwa [hq]) (.inl hslash) (.inl hcontrol)

private theorem escape?_head {lines : Bool} (hc : escape? lines c = some text) :
    text.head? = some '\\' := by
  grind [escape?]

/-- Only a quote is written with a quote in front, and no character with a line end of another
kind. -/
theorem unquoted_cons (lines : Bool) (hc : c ≠ '\x22') :
    ∃ x rest, (escape? lines c).getD [c] = x :: rest ∧ x ≠ '\x22' ∧
      (c ≠ '\n' → x ≠ '\n') ∧ x ≠ '\r' := by
  cases ht : escape? lines c with
  | none =>
    have hreturn : c ≠ '\r' := by
      intro h
      simp [escape?, h] at ht
    exact ⟨c, [], rfl, hc, id, hreturn⟩
  | some text =>
    obtain ⟨rest, hrest⟩ := List.head?_eq_some_iff.mp (escape?_head ht)
    exact ⟨'\\', rest, hrest, by decide, fun _ => by decide, by decide⟩

@[simp] private theorem scan_basic (s r : List Char) :
    basic.scan .text (escapeBasic false 0 s ++ '\x22' :: r) = some (s, r) := by
  induction s with
  | nil =>
    have hclose : basic.step .text '\x22' = .close [] true := rfl
    exact scan_of_close hclose
  | cons c s ih =>
    by_cases hc : c = '\x22'
    · subst hc
      have hquote : basic.Passes .text ['\\', '\x22'] ['\x22'] .text := passes_short rfl rfl rfl
      exact hquote.scan_eq ih
    · have hread := (passes_unquoted (q := basic) rfl rfl hc).scan_eq ih
      rw [escapeBasic, if_neg hc, List.append_assoc]
      exact hread

private theorem scan_basicLines {n : Nat} {r : List Char} (hn : n ≤ 2) (hc : c ≠ '\x22')
    (s : List Char) :
    basicLines.scan (afterQuotes n) (escapeBasic true n s ++ (basicLines.delimiter ++ c :: r)) =
      some (List.replicate n '\x22' ++ s, c :: r) := by
  induction s generalizing n with
  | nil =>
    rw [escapeBasic, List.nil_append, List.append_nil]
    exact scan_delimiter rfl hn hc
  | cons x s ih =>
    by_cases hx : x = '\x22'
    · subst hx
      rw [escapeBasic, if_pos rfl]
      by_cases hlt : n < 2
      · -- a quote that stands for itself
        have hquote := passes_quote (q := basicLines) n rfl (by omega)
        have hread := hquote.scan_eq (ih (show n + 1 ≤ 2 by omega))
        rw [if_pos ⟨rfl, hlt⟩, List.cons_append, ← List.singleton_append]
        rw [show ['\x22'] = [basicLines.quote] from rfl, hread, List.replicate_succ']
        simp
      · -- the third in a row is escaped, and the count starts again
        have hquote : basicLines.Passes .text ['\\', '\x22'] ['\x22'] .text :=
          passes_short rfl rfl rfl
        have hread := hquote.scan_eq (ih (Nat.zero_le 2))
        rw [if_neg (fun h => hlt h.2), List.cons_append, scan_afterQuotes hn (by decide)]
        rw [List.cons_append] at hread ⊢
        rw [List.singleton_append] at hread
        rw [hread]
        rfl
    · obtain ⟨y, rest, hy, hquote, -⟩ := unquoted_cons true hx
      have hread := (passes_unquoted (q := basicLines) rfl rfl hx).scan_eq (ih (Nat.zero_le 2))
      rw [show basicLines.lines = true from rfl, hy, List.cons_append] at hread
      rw [escapeBasic, if_neg hx, hy, List.append_assoc, List.cons_append,
        scan_afterQuotes hn hquote, hread]
      rfl

/-- The inside of a basic quotation on one line never starts with a bare quote. -/
private theorem escapeBasic_cons (s : List Char) (c : Char) :
    ∃ x rest, escapeBasic false 0 (c :: s) = x :: rest ∧ x ≠ '\x22' := by
  rw [escapeBasic]
  by_cases hc : c = '\x22'
  · rw [if_pos hc, if_neg (by simp)]
    exact ⟨'\\', _, rfl, by decide⟩
  · obtain ⟨x, rest, hx, hquote, -⟩ := unquoted_cons false hc
    rw [if_neg hc, hx]
    exact ⟨x, _, rfl, hquote⟩

private theorem escapeBasic_head {s r : List Char} (hs : '\n' ∉ s) :
    ∃ x rest, escapeBasic true 0 s ++ (basicLines.delimiter ++ r) = x :: rest ∧
      x ≠ '\n' ∧ x ≠ '\r' := by
  cases s with
  | nil => exact ⟨'\x22', _, rfl, by decide, by decide⟩
  | cons c s =>
    rw [escapeBasic]
    by_cases hc : c = '\x22'
    · rw [if_pos hc, if_pos (by simp), hc]
      exact ⟨'\x22', _, rfl, by decide, by decide⟩
    · obtain ⟨x, rest, hx, -, hline, hreturn⟩ := unquoted_cons true hc
      have hc' : c ≠ '\n' := fun h => hs (h ▸ List.mem_cons_self)
      rw [if_neg hc, hx]
      exact ⟨x, _, rfl, hline hc', hreturn⟩

end Quotation

@[simp] theorem newline?_of_ne {c : Char} {r : List Char} (hline : c ≠ '\n') (hreturn : c ≠ '\r') :
    newline? (c :: r) = none := by
  unfold newline?
  split <;> simp_all

theorem newline?_opening {s r : List Char}
    (h : '\n' ∉ s → ∃ c rest, r = c :: rest ∧ c ≠ '\n' ∧ c ≠ '\r') :
    (newline? ((if s.contains '\n' then ['\n'] else []) ++ r)).getD
      ((if s.contains '\n' then ['\n'] else []) ++ r) = r := by
  by_cases hs : '\n' ∈ s
  · rw [if_pos (List.contains_iff_mem.mpr hs)]
    rfl
  · obtain ⟨c, rest, hr, hline, hreturn⟩ := h hs
    rw [if_neg (by rwa [List.contains_iff_mem]), List.nil_append, hr,
      newline?_of_ne hline hreturn]
    rfl

theorem string?_basic {s : List Char} (r : List Char) :
    string? ('\x22' :: (escapeBasic false 0 s ++ '\x22' :: '\n' :: r)) = some (s, '\n' :: r) := by
  have hread := Quotation.scan_basic s ('\n' :: r)
  cases s with
  | nil => exact hread
  | cons c s =>
    obtain ⟨x, rest, hx, hquote⟩ := Quotation.escapeBasic_cons s c
    rw [hx] at hread ⊢
    rw [← hread]
    unfold string?
    split <;> simp_all

theorem string?_basicLines (s r : List Char) :
    string? (Quotation.basicLines.delimiter ++ ((if s.contains '\n' then ['\n'] else []) ++
      (escapeBasic true 0 s ++ (Quotation.basicLines.delimiter ++ '\n' :: r)))) =
    some (s, '\n' :: r) := by
  have hread := Quotation.scan_basicLines (Nat.zero_le 2) (show '\n' ≠ '\x22' by decide) (r := r) s
  rw [← newline?_opening (s := s) Quotation.escapeBasic_head] at hread
  exact hread

theorem Quotation.plain_of_holds {q : Quotation} {s : List Char} (h : q.holds s) :
    ∀ x ∈ s, isControl x = false ∨ x = '\t' ∨ (q.lines = true ∧ x = '\n') := by
  simp only [holds, Bool.and_eq_true, List.all_eq_true] at h
  intro x hx
  simpa [or_assoc] using h.1.1 x hx

theorem string?_literal {s : List Char} (h : Quotation.literal.holds s) (r : List Char) :
    string? ('\x27' :: (s ++ '\x27' :: '\n' :: r)) = some (s, '\n' :: r) := by
  have hquote : '\x27' ∉ s := by
    simp only [Quotation.holds, Quotation.literal, Bool.and_eq_true] at h
    simpa using h.2
  have hplain : ∀ x ∈ s, (isControl x = false ∨ x = '\t') ∧ x ≠ '\x27' := by
    intro x hx
    refine ⟨?_, fun hx' => hquote (hx' ▸ hx)⟩
    simpa [Quotation.literal] using Quotation.plain_of_holds h x hx
  have hread := Quotation.scan_raw (q := Quotation.literal) (r := '\n' :: r) rfl rfl hplain
  rw [show Quotation.literal.quote = '\x27' from rfl] at hread
  cases s with
  | nil => exact hread
  | cons c s =>
    have hc := (hplain c List.mem_cons_self).2
    rw [← hread]
    unfold string?
    split <;> simp_all

theorem string?_literalLines {s : List Char} (h : Quotation.literalLines.holds s)
    (r : List Char) :
    string? (Quotation.literalLines.delimiter ++ ((if s.contains '\n' then ['\n'] else []) ++
      (s ++ (Quotation.literalLines.delimiter ++ '\n' :: r)))) =
    some (s, '\n' :: r) := by
  have hplain : ∀ x ∈ s, isControl x = false ∨ x = '\t' ∨ x = '\n' := by
    simpa [Quotation.literalLines] using Quotation.plain_of_holds h
  have hrun : longestRun '\x27' 0 s ≤ 2 := by
    simp only [Quotation.holds, Quotation.literalLines, Bool.and_eq_true] at h
    exact of_decide_eq_true h.2
  have hread := Quotation.scan_raw_lines (q := Quotation.literalLines) (c := '\n') (r := r)
    rfl rfl (by decide) hplain (Nat.zero_le 2) hrun
  have hhead : '\n' ∉ s → ∃ c rest,
      s ++ (Quotation.literalLines.delimiter ++ '\n' :: r) = c :: rest ∧ c ≠ '\n' ∧ c ≠ '\r' := by
    intro hs
    cases s with
    | nil => exact ⟨'\x27', _, rfl, by decide, by decide⟩
    | cons c s =>
      refine ⟨c, _, rfl, fun hc => hs (hc ▸ List.mem_cons_self), fun hc => ?_⟩
      have hcontrol := hplain c List.mem_cons_self
      rw [hc] at hcontrol
      revert hcontrol
      decide
  rw [← newline?_opening hhead] at hread
  exact hread

theorem quotationOf_cases (s : List Char) :
    quotationOf s = .basic ∨ quotationOf s = .basicLines ∨
      (quotationOf s = .literal ∧ Quotation.literal.holds s) ∨
      (quotationOf s = .literalLines ∧ Quotation.literalLines.holds s) := by
  unfold quotationOf
  repeat' split
  all_goals simp_all

/-- A text that is quoted reads back whichever quotation was chosen for it. -/
@[simp] theorem string?_quoted (s r : List Char) :
    string? (quoted s ++ '\n' :: r) = some (s, '\n' :: r) := by
  rcases quotationOf_cases s with hq | hq | ⟨hq, h⟩ | ⟨hq, h⟩
  · rw [← string?_basic r, quoted, hq]
    simp [Quotation.basic, Quotation.delimiter]
  · rw [← string?_basicLines s r, quoted, hq]
    simp [Quotation.basicLines]
  · rw [← string?_literal h r, quoted, hq]
    simp [Quotation.literal, Quotation.delimiter]
  · rw [← string?_literalLines h r, quoted, hq]
    simp [Quotation.literalLines]

end LogRouting.Toml
