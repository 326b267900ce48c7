import LogRouting.Proofs.Text
import LogRouting.Transport
import Mathlib.Data.List.Forall2
/-!
JSON as it is written and read. What is written is a single line, since control characters inside a
text are escaped. It says what it is read as wherever it stands, as long as nothing follows that
could belong to a number; so objects are read member by member. Main statements:
`newline_not_mem_line`, `reads_quoted`, `reads_integer`, `reads_object`, and `parse_of_reads` for a
text that stands alone.
-/
namespace LogRouting

/-! Lines -/

namespace Json

def Plain (ps : Pieces) : Prop :=
  ∀ piece ∈ ps, ∀ c ∈ piece, 0x20 ≤ c.toNat

def OneLine (ps : Pieces) : Prop :=
  ∀ piece ∈ ps, '\n' ∉ piece

variable {ps ps' : Pieces} {piece run : List Char} {c : Char}

theorem plain_nil : Plain [] := by
  intro piece h
  cases h

theorem Plain.cons (hpiece : ∀ c ∈ piece, 0x20 ≤ c.toNat) (h : Plain ps) : Plain (piece :: ps) :=
  List.forall_mem_cons.mpr ⟨hpiece, h⟩

theorem Plain.append (h : Plain ps) (h' : Plain ps') : Plain (ps ++ ps') :=
  List.forall_mem_append.mpr ⟨h, h'⟩

theorem Plain.flatten (h : Plain ps) : ∀ c ∈ ps.flatten, 0x20 ≤ c.toNat := by
  intro c hc
  obtain ⟨piece, hpiece, hmem⟩ := List.mem_flatten.mp hc
  exact h piece hpiece c hmem

theorem Plain.oneLine (h : Plain ps) : OneLine ps :=
  fun piece hpiece hmem => absurd (h piece hpiece '\n' hmem) (by decide)

private theorem le_toNat_hexDigit (n : Nat) : 0x20 ≤ (hexDigit n).toNat := by
  by_cases hn : n < 16
  · have hall : ∀ n < 16, 0x20 ≤ (hexDigit n).toNat := by decide
    exact hall n hn
  · have hnone : hexDigits[n]? = none := List.getElem?_eq_none (Nat.le_of_not_lt hn)
    rw [hexDigit, List.getD_eq_getElem?_getD, hnone]
    decide

private theorem le_toNat_of_escape?_some (h : escape? c = some piece) :
    ∀ x ∈ piece, 0x20 ≤ x.toNat := by
  unfold escape? at h
  repeat' split at h
  all_goals
    cases h
    try simp [le_toNat_hexDigit]

private theorem le_toNat_of_escape?_none (h : escape? c = none) : 0x20 ≤ c.toNat := by
  unfold escape? at h
  repeat' split at h
  all_goals cases h
  exact Nat.le_of_not_lt ‹_›

theorem plain_stringPieces {s : List Char} (hrun : ∀ c ∈ run, 0x20 ≤ c.toNat) :
    Plain (stringPieces run s) := by
  have hflush : ∀ run rest, (∀ c ∈ run, 0x20 ≤ c.toNat) → Plain rest →
      Plain (stringPieces.flush run rest) := by
    intro run rest hrun hrest
    unfold stringPieces.flush
    split
    · exact hrest
    · exact hrest.cons (by simpa using hrun)
  induction s generalizing run with
  | nil => exact hflush run [] hrun plain_nil
  | cons c s ih =>
    rw [stringPieces]
    cases hc : escape? c with
    | some e => exact hflush run _ hrun ((ih (by simp)).cons (le_toNat_of_escape?_some hc))
    | none => exact ih (List.forall_mem_cons.mpr ⟨le_toNat_of_escape?_none hc, hrun⟩)

theorem plain_quoted (s : String) : Plain (quoted s) :=
  ((plain_stringPieces (by simp)).append (plain_nil.cons (by simp))).cons (by simp)

theorem plain_naturalPiece (n : Nat) : Plain (naturalPiece n) :=
  plain_nil.cons (Text.le_toNat_numeral n)

theorem plain_integerPiece (n : Int) : Plain (integerPiece n) :=
  plain_nil.cons (Text.le_toNat_signedNumeral n)

private theorem plain_membersAfter {lead : Pieces} {members : List (String × Pieces)}
    (hlead : Plain lead) (h : ∀ m ∈ members, Plain m.2) :
    Plain (membersAfter lead members) := by
  induction members generalizing lead with
  | nil => exact plain_nil
  | cons m members ih =>
    obtain ⟨key, value⟩ := m
    have hcomma : Plain [[',']] := plain_nil.cons (by simp)
    have hcolon : Plain [[':']] := plain_nil.cons (by simp)
    have hrest := ih hcomma fun x hx => h x (List.mem_cons_of_mem _ hx)
    exact (((hlead.append (plain_quoted key)).append hcolon).append
      (h (key, value) List.mem_cons_self)).append hrest

theorem plain_objectPieces {members : List (String × Pieces)}
    (h : ∀ m ∈ members, Plain m.2) : Plain (objectPieces members) :=
  ((plain_membersAfter plain_nil h).append (plain_nil.cons (by simp))).cons (by simp)

end Json

open Json

theorem Stamp.plain_pieces (s : Stamp) : Plain s.pieces :=
  plain_objectPieces (by simp [plain_integerPiece, plain_naturalPiece])

theorem Record.plain_members (r : Record) : ∀ m ∈ r.members, Plain m.2 := by
  simp [members, Stamp.plain_pieces, plain_integerPiece, plain_naturalPiece, plain_quoted]

theorem JsonLines.newline_not_mem_line (e : Endpoint) (r : Record) :
    ∃ text, line e r = text ++ ['\n'] ∧ '\n' ∉ text := by
  have hpieces : Plain (linePieces e r) := by
    apply plain_objectPieces
    intro m hm
    rcases List.mem_cons.mp hm with rfl | hm
    · exact plain_quoted e.topic
    rcases List.mem_cons.mp hm with rfl | hm
    · exact plain_naturalPiece e.owner.raw.toNat
    · exact r.plain_members m hm
  refine ⟨(linePieces e r).flatten, rfl, fun h => ?_⟩
  obtain ⟨piece, hpiece, hmem⟩ := List.mem_flatten.mp h
  exact hpieces.oneLine piece hpiece hmem

end LogRouting

namespace LogRouting.Json

/-! Reading -/

def written (c : Char) : List Char :=
  (escape? c).getD [c]

@[simp] private theorem flatten_stringPieces (run s : List Char) :
    (stringPieces run s).flatten = run.reverse ++ s.flatMap written := by
  have hflush (run : List Char) (rest : Pieces) :
      (stringPieces.flush run rest).flatten = run.reverse ++ rest.flatten := by
    unfold stringPieces.flush
    cases run <;> rfl
  induction s generalizing run with
  | nil => exact hflush run []
  | cons c s ih =>
    rw [stringPieces, List.flatMap_cons, written]
    cases escape? c with
    | some e =>
      dsimp only
      rw [hflush, List.flatten_cons, ih]
      rfl
    | none =>
      dsimp only
      rw [ih]
      simp

theorem quoted_append (s : String) (rest : List Char) :
    (quoted s).flatten ++ rest = '\x22' :: (s.toList.flatMap written ++ '\x22' :: rest) := by
  rw [quoted, List.flatten_cons, List.flatten_append, flatten_stringPieces]
  simp

/-- What a scanned string has in the place of a character: itself, or its code if it is one of the
lowest control characters. -/
inductive Denotes : Unit16 → Char → Prop where
  | char (c : Char) : Denotes (.char c) c
  | code {c : Char} (h : c.toNat < 0x20) : Denotes (.code c.toNat) c

@[simp] theorem hexValue?_hexDigit {n : Nat} (h : n < 16) :
    Text.hexValue? (hexDigit n) = some n := by
  have hall : ∀ n < 16, Text.hexValue? (hexDigit n) = some n := by decide
  exact hall n h

inductive Escaping (c : Char) : Option (List Char) → Prop where
  | letter {x : Char} (hu : x ≠ 'u') (hx : shortEscape? x = some c) : Escaping c (some ['\\', x])
  | code (h : c.toNat < 0x20) : Escaping c
      (some ['\\', 'u', '0', '0', hexDigit (c.toNat / 16), hexDigit (c.toNat % 16)])
  | plain (hquote : c ≠ '\x22') (hslash : c ≠ '\\') (h : ¬c.toNat < 0x20) : Escaping c none

theorem escape?_cases (c : Char) : Escaping c (escape? c) := by
  unfold escape?
  iterate 7
    split
    · rename_i h
      subst h
      exact .letter (by decide) rfl
  split
  · exact .code ‹_›
  · exact .plain ‹_› ‹_› ‹_›

private theorem scan_written (c : Char) :
    ∃ u, Denotes u c ∧ ∀ rest, scanString .text (written c ++ rest) =
      (scanString .text rest).map fun (s, r) => (u :: s, r) := by
  have hcases := escape?_cases c
  unfold written
  generalize escape? c = e at hcases ⊢
  cases hcases with
  | @letter x hu hx =>
    refine ⟨.char c, .char c, fun rest => ?_⟩
    simp [scanString, hu, hx]
  | code h =>
    refine ⟨.code c.toNat, .code h, fun rest => ?_⟩
    have hhigh := hexValue?_hexDigit (n := c.toNat / 16) (by omega)
    have hlow := hexValue?_hexDigit (n := c.toNat % 16) (by omega)
    have hzero : Text.hexValue? '0' = some 0 := by decide
    have hsum : 16 * (c.toNat / 16) + c.toNat % 16 = c.toNat := Nat.div_add_mod ..
    simp [scanString, hzero, hhigh, hlow, hsum]
  | plain hquote hslash h =>
    refine ⟨.char c, .char c, fun rest => ?_⟩
    simp [scanString, hquote, hslash, h]

theorem scan_text (s rest : List Char) :
    ∃ us, List.Forall₂ Denotes us s ∧
      scanString .text (s.flatMap written ++ '\x22' :: rest) = some (us, rest) := by
  induction s with
  | nil => exact ⟨[], .nil, by simp [scanString]⟩
  | cons c s ih =>
    obtain ⟨u, hu, hscan⟩ := scan_written c
    obtain ⟨us, hus, hrest⟩ := ih
    refine ⟨u :: us, .cons hu hus, ?_⟩
    rw [List.flatMap_cons, List.append_assoc, hscan, hrest]
    rfl

/-- The code of a control character is no half of a pair. -/
@[simp] private theorem joinUnits_code {n : Nat} (h : n < 0x20) (us : List Unit16) :
    joinUnits (.code n :: us) = (joinUnits us).map (Char.ofNat n :: ·) := by
  have hhigh : isHighSurrogate n = false := by
    simp only [isHighSurrogate, Bool.and_eq_false_iff, decide_eq_false_iff_not]
    omega
  have hlow : isLowSurrogate n = false := by
    simp only [isLowSurrogate, Bool.and_eq_false_iff, decide_eq_false_iff_not]
    omega
  cases us with
  | nil => simp [joinUnits, hhigh, hlow]
  | cons u us => cases u <;> simp [joinUnits, hhigh, hlow]

theorem joinUnits_of_denotes {us : List Unit16} {s : List Char}
    (h : List.Forall₂ Denotes us s) : joinUnits us = some s := by
  induction h with
  | nil => rfl
  | cons hu _ ih =>
    cases hu with
    | char c => rw [joinUnits, ih, Option.map_some]
    | code hc => rw [joinUnits_code hc, ih, Option.map_some, Char.ofNat_toNat]

@[simp] theorem string?_written (s : String) (rest : List Char) :
    string? (s.toList.flatMap written ++ '\x22' :: rest) = some (some s, rest) := by
  obtain ⟨us, hus, hscan⟩ := scan_text s.toList rest
  rw [string?, hscan, Option.map_some]
  dsimp only
  rw [joinUnits_of_denotes hus, Option.map_some, String.ofList_toList]

def Ends (rest : List Char) : Prop :=
  ∀ c ∈ rest.head?, Text.isDigit c = false ∧ c ≠ '.' ∧ c ≠ 'e' ∧ c ≠ 'E'

@[simp] theorem digits?_numeral (n : Nat) {rest : List Char} (hrest : Ends rest) :
    digits? (Text.numeral n ++ rest) = some (Text.numeral n, rest) := by
  have hspan : (Text.numeral n ++ rest).span Text.isDigit = (Text.numeral n, rest) := by
    rw [List.span_eq_takeWhile_dropWhile, List.takeWhile_append_of_pos (Text.numeral_digits n),
      List.dropWhile_append_of_pos (Text.numeral_digits n)]
    cases rest with
    | nil => simp
    | cons c rest => simp [(hrest c rfl).1]
  rw [digits?, hspan]
  split
  · rename_i h
    exact absurd (congrArg Prod.fst h) (Text.numeral_ne_nil n)
  · rename_i h
    cases h
    rfl

@[simp] theorem skipFraction?_of_ends {rest : List Char} (hrest : Ends rest) :
    skipFraction? rest = some (false, rest) := by
  unfold skipFraction?
  split
  · exact absurd rfl (hrest _ rfl).2.1
  · rfl

@[simp] theorem skipExponent?_of_ends {rest : List Char} (hrest : Ends rest) :
    skipExponent? rest = some (false, rest) := by
  unfold skipExponent?
  split
  · exact absurd rfl (hrest _ rfl).2.2.1
  · exact absurd rfl (hrest _ rfl).2.2.2
  · rfl

theorem unsigned?_numeral (negative : Bool) {n : Nat} (hzero : negative → n ≠ 0)
    {rest : List Char} (hrest : Ends rest) :
    unsigned? negative (Text.numeral n ++ rest) =
      some (integer (if negative then -n else n), rest) := by
  have hvalue : Nat.ofDigitChars 10 (Text.numeral n) 0 = n := Nat.ofDigitChars_ten_toDigits
  have hlead : ¬((Text.numeral n).head? = some '0' ∧ Text.numeral n ≠ ['0']) := by
    rintro ⟨hhead, hne⟩
    exact hne (Text.numeral_of_zero_head hhead)
  have hsign : ¬(negative = true ∧ n = 0) := fun h => hzero h.1 h.2
  simp only [unsigned?, digits?_numeral n hrest, skipFraction?_of_ends hrest,
    skipExponent?_of_ends hrest, hvalue, hlead, Option.bind_eq_bind, Option.bind_some, if_false]
  simp [hsign]

/-- Wherever the text stands, so many calls read this value from it and nothing of what follows. -/
def Reads (calls : Nat) (text : List Char) (v : Json) : Prop :=
  ∀ fuel rest, calls ≤ fuel → Ends rest → value fuel (text ++ rest) = (v, some rest)

theorem Reads.mono {calls calls' : Nat} {text : List Char} {v : Json} (h : Reads calls text v)
    (hle : calls ≤ calls') : Reads calls' text v :=
  fun fuel rest hfuel => h fuel rest (Nat.le_trans hle hfuel)

@[simp] theorem skipBlank_cons (c : Char) (hc : isBlank c = false) (s : List Char) :
    skipBlank (c :: s) = c :: s := by
  simp [skipBlank, hc]

private theorem skipBlank_of_blank {s : List Char} (h : ∀ c ∈ s, isBlank c = true) :
    skipBlank s = [] :=
  List.dropWhile_eq_nil_iff.mpr h

@[simp] private theorem value_quote (fuel : Nat) (r : List Char) :
    value (fuel + 1) ('\x22' :: r) =
      match string? r with
      | some (t, r) => (string t, some r)
      | none => (broken, none) := by
  rw [value]
  rfl

theorem reads_quoted (s : String) : Reads 1 (quoted s).flatten (string (some s)) := by
  intro fuel rest hfuel _
  obtain ⟨fuel, rfl⟩ := Nat.exists_eq_add_of_le' hfuel
  rw [quoted_append, value_quote, string?_written]

theorem value_number {c : Char} {s rest : List Char} {v : Json}
    (hc : Text.isDigit c = true ∨ c = '-') (h : number? (c :: s) = some (v, rest)) (fuel : Nat) :
    value (fuel + 1) (c :: s) = (v, some rest) := by
  have hne : ∀ x, Text.isDigit x = false → x ≠ '-' → c ≠ x := by
    intro x hx hminus hcx
    rw [hcx] at hc
    rcases hc with hdigit | hsign
    · rw [hx] at hdigit
      cases hdigit
    · exact hminus hsign
  have hblank : isBlank c = false := by
    simp [isBlank, hne ' ' (by decide) (by decide), hne '\n' (by decide) (by decide),
      hne '\t' (by decide) (by decide), hne '\r' (by decide) (by decide)]
  have hscalar : scalar? (c :: s) = some (v, rest) := by
    have hliteral (x : Char) (word : List Char) (v : Json) (hx : c ≠ x) :
        literal? (x :: word) v (c :: s) = none := by
      simp [literal?, hx]
    rw [scalar?, hliteral 'n' _ _ (hne _ (by decide) (by decide)),
      hliteral 't' _ _ (hne _ (by decide) (by decide)),
      hliteral 'f' _ _ (hne _ (by decide) (by decide)), h]
    rfl
  rw [value, skipBlank_cons c hblank]
  split
  · rename_i heq
    exact absurd (List.head_eq_of_cons_eq heq) (hne _ (by decide) (by decide))
  · rename_i heq
    exact absurd (List.head_eq_of_cons_eq heq) (hne _ (by decide) (by decide))
  · rename_i heq
    exact absurd (List.head_eq_of_cons_eq heq) (hne _ (by decide) (by decide))
  · rw [hscalar]

theorem exists_numeral_eq_cons (n : Nat) :
    ∃ c s, Text.numeral n = c :: s ∧ Text.isDigit c = true := by
  obtain ⟨c, s, hcons⟩ := List.exists_cons_of_ne_nil (Text.numeral_ne_nil n)
  exact ⟨c, s, hcons, Text.numeral_digits n c (by simp [hcons])⟩

@[simp] theorem number?_numeral (n : Nat) {rest : List Char} (hrest : Ends rest) :
    number? (Text.numeral n ++ rest) = some (integer n, rest) := by
  have hunsigned := unsigned?_numeral false (n := n) (by simp) hrest
  obtain ⟨c, s, hcons, hdigit⟩ := exists_numeral_eq_cons n
  rw [hcons, List.cons_append] at hunsigned ⊢
  unfold number?
  split
  · rename_i heq
    rw [List.head_eq_of_cons_eq heq] at hdigit
    exact absurd hdigit (by decide)
  · simpa using hunsigned

theorem reads_natural (n : Nat) : Reads 1 (naturalPiece n).flatten (integer n) := by
  intro fuel rest hfuel hrest
  obtain ⟨fuel, rfl⟩ := Nat.exists_eq_add_of_le' hfuel
  have hnumber := number?_numeral n hrest
  obtain ⟨c, s, hcons, hdigit⟩ := exists_numeral_eq_cons n
  rw [naturalPiece, List.flatten_singleton]
  rw [hcons, List.cons_append] at hnumber ⊢
  exact value_number (.inl hdigit) hnumber fuel

theorem reads_integer (n : Int) : Reads 1 (integerPiece n).flatten (integer n) := by
  rw [integerPiece, List.flatten_singleton, Text.signedNumeral]
  split
  · rename_i hneg
    intro fuel rest hfuel hrest
    obtain ⟨fuel, rfl⟩ := Nat.exists_eq_add_of_le' hfuel
    have hunsigned := unsigned?_numeral true (n := n.natAbs) (by omega) hrest
    have habs : -(n.natAbs : Int) = n := by omega
    rw [if_pos rfl, habs] at hunsigned
    exact value_number (.inr rfl) hunsigned fuel
  · have habs : (n.natAbs : Int) = n := by omega
    have hnatural := reads_natural n.natAbs
    rwa [habs, naturalPiece, List.flatten_singleton] at hnatural

theorem ends_cons {c : Char} (hc : c = ',' ∨ c = '\x7d') (rest : List Char) :
    Ends (c :: rest) := by
  intro x hx
  cases hx
  rcases hc with rfl | rfl <;> decide

/-- The members that are read for those that were written: the same keys in the same order, each
with the value that its text is read as. -/
def ReadsMembers (calls : Nat) : List (String × Pieces) → List (Option String × Json) → Prop :=
  List.Forall₂ fun m v => v.1 = some m.1 ∧ Reads calls m.2.flatten v.2

section
variable {calls fuel : Nat} {key : String} {text : Pieces} {v : Json}
  (h : Reads calls text.flatten v) (hfuel : calls ≤ fuel) (rest : List Char)
include h hfuel

private theorem members_last :
    members (fuel + 1) ((quoted key).flatten ++ ':' :: (text.flatten ++ '\x7d' :: rest)) =
      ([(some key, v)], some rest) := by
  have hends : Ends ('\x7d' :: rest) := ends_cons (.inr rfl) rest
  rw [quoted_append, members, skipBlank_cons '\x22' (by decide)]
  simp only [string?_written, skipBlank_cons ':' (by decide), h fuel _ hfuel hends,
    skipBlank_cons '\x7d' (by decide)]

private theorem members_more :
    members (fuel + 1) ((quoted key).flatten ++ ':' :: (text.flatten ++ ',' :: rest)) =
      ((some key, v) :: (members fuel rest).1, (members fuel rest).2) := by
  have hends : Ends (',' :: rest) := ends_cons (.inl rfl) rest
  rw [quoted_append, members, skipBlank_cons '\x22' (by decide)]
  simp only [string?_written, skipBlank_cons ':' (by decide), h fuel _ hfuel hends,
    skipBlank_cons ',' (by decide)]

end

theorem membersAfter_append (lead : Pieces) (m : String × Pieces) (ms : List (String × Pieces))
    (rest : List Char) :
    (membersAfter lead (m :: ms)).flatten ++ rest = lead.flatten ++ ((quoted m.1).flatten ++
      ':' :: (m.2.flatten ++ ((membersAfter [[',']] ms).flatten ++ rest))) := by
  simp [membersAfter]

theorem members_membersAfter {calls fuel : Nat} {m : String × Pieces}
    {ms : List (String × Pieces)} {vs : List (Option String × Json)}
    (h : ReadsMembers calls (m :: ms) vs) (hfuel : calls + ms.length < fuel) (rest : List Char) :
    members fuel ((membersAfter [] (m :: ms)).flatten ++ '\x7d' :: rest) = (vs, some rest) := by
  induction ms generalizing m vs fuel with
  | nil =>
    obtain ⟨fuel, rfl⟩ := Nat.exists_eq_add_of_le' (Nat.one_le_of_lt hfuel)
    rcases h with _ | @⟨_, ⟨_, v⟩, _, _, ⟨rfl, hread⟩, _ | _⟩
    rw [membersAfter_append]
    exact members_last hread (by omega) rest
  | cons next ms ih =>
    -- one call for this member, and what is left of them for the others
    obtain ⟨fuel, rfl⟩ := Nat.exists_eq_add_of_le' (Nat.one_le_of_lt hfuel)
    rcases h with _ | @⟨_, ⟨_, v⟩, _, vs, ⟨rfl, hread⟩, hrest⟩
    rw [List.length_cons] at hfuel
    have hnext : (membersAfter [[',']] (next :: ms)).flatten ++ '\x7d' :: rest =
        ',' :: ((membersAfter [] (next :: ms)).flatten ++ '\x7d' :: rest) := by
      rw [membersAfter_append, membersAfter_append]
      rfl
    have hrest' := ih hrest (show calls + ms.length < fuel by omega)
    rw [membersAfter_append, hnext, List.flatten_nil, List.nil_append,
      members_more hread (by omega), hrest']

theorem reads_object {calls : Nat} {ms : List (String × Pieces)}
    {vs : List (Option String × Json)} (h : ReadsMembers calls ms vs) :
    Reads (calls + ms.length + 1) (objectPieces ms).flatten (object vs true) := by
  intro fuel rest hfuel _
  obtain ⟨fuel, rfl⟩ := Nat.exists_eq_add_of_le' (Nat.le_of_add_left_le hfuel)
  have htext : (objectPieces ms).flatten ++ rest =
      '\x7b' :: ((membersAfter [] ms).flatten ++ '\x7d' :: rest) := by
    simp [objectPieces]
  rw [htext, value, skipBlank_cons '\x7b' (by decide)]
  cases ms with
  | nil =>
    cases h
    rfl
  | cons m ms =>
    rw [List.length_cons] at hfuel
    have hmembers : members fuel ((membersAfter [] (m :: ms)).flatten ++ '\x7d' :: rest) =
        (vs, some rest) := members_membersAfter h (by omega) rest
    obtain ⟨text, hstart⟩ : ∃ text,
        (membersAfter [] (m :: ms)).flatten ++ '\x7d' :: rest = '\x22' :: text := by
      rw [membersAfter_append, List.flatten_nil, List.nil_append, quoted_append]
      exact ⟨_, rfl⟩
    rw [hstart] at hmembers ⊢
    change (object (members fuel ('\x22' :: text)).1 (members fuel ('\x22' :: text)).2.isSome,
      (members fuel ('\x22' :: text)).2) = _
    rw [hmembers]
    rfl

theorem length_le_objectPieces (ms : List (String × Pieces)) :
    3 * ms.length + 2 ≤ (objectPieces ms).flatten.length := by
  have hmembers (lead : Pieces) : 3 * ms.length ≤ (membersAfter lead ms).flatten.length := by
    induction ms generalizing lead with
    | nil => exact Nat.zero_le _
    | cons m ms ih =>
      have hrest := ih [[',']]
      have htext := membersAfter_append lead m ms []
      rw [List.append_nil] at htext
      rw [htext, quoted_append]
      simp only [List.length_append, List.length_cons, List.length_nil]
      omega
  have hobject := hmembers []
  simp only [objectPieces, List.flatten_cons, List.flatten_append, List.flatten_nil,
    List.length_append, List.length_cons, List.length_nil]
  omega

theorem parse_of_reads {calls : Nat} {text : List Char} {v : Json} (h : Reads calls text v)
    (hcalls : calls ≤ 2 * text.length + 2) {trail : List Char}
    (htrail : ∀ c ∈ trail, isBlank c = true) : parse (text ++ trail) = (v, true) := by
  have hends : Ends trail := by
    intro c hc
    have hblank := htrail c (List.mem_of_mem_head? hc)
    simp only [isBlank, Bool.or_eq_true, decide_eq_true_eq] at hblank
    rcases hblank with ((rfl | rfl) | rfl) | rfl <;> decide
  have hlength : text.length ≤ (text ++ trail).length := by simp
  rw [parse, h _ _ (by omega) hends]
  simp [skipBlank_of_blank htrail]

end LogRouting.Json
