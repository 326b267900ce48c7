import LogRouting.Proofs.Text
import LogRouting.Proofs.Toml.Quoting
import LogRouting.Toml.Reader
import LogRouting.Toml.Text
import Mathlib.Data.Option.Basic
/-!
Every scalar that is written reads back as its value. A numeral has to be told apart from dates,
times and floats, which start like one. Main statement: `value?_render`.
-/
namespace LogRouting

namespace Toml

open Text (isDigit numeral digit_ne span_append)

variable {s r : List Char}

def Scalar.value : Scalar → Value
  | text s => .string s
  | natural n => .integer n
  | flag b => .boolean b

def Scalar.Readable : Scalar → Prop
  | natural n => n < integerBound
  | _ => True

theorem mark?_digits {x : Char} (hs : ∀ c ∈ s, isDigit c = true) (hx : isDigit x = false) :
    mark? x s = none := by
  cases s with
  | nil => rfl
  | cons c s => exact if_neg (digit_ne (hs c List.mem_cons_self) hx)

theorem fixed?_digits {width n : Nat} (hs : ∀ c ∈ s, isDigit c = true)
    (h : fixed? width s = some (n, r)) : ∀ c ∈ r, isDigit c = true := by
  simp only [fixed?] at h
  split at h
  · cases h
    exact fun c hc => hs c (List.mem_of_mem_drop hc)
  · cases h

@[simp] theorem fixed?_minus (width : Nat) : fixed? (width + 1) ('-' :: s) = none := by
  rw [fixed?, List.take_succ_cons, if_neg]
  rintro ⟨-, hdigits⟩
  exact absurd (List.all_eq_true.mp hdigits '-' List.mem_cons_self) (by decide)

@[simp] private theorem isDatetime_minus : isDatetime ('-' :: s) = false := by
  rw [isDatetime, date?, time?, fixed?_minus, fixed?_minus]
  rfl

/-- Digits alone are neither a date nor a time. -/
@[simp] private theorem isDatetime_digits (hs : ∀ c ∈ s, isDigit c = true) :
    isDatetime s = false := by
  have hdate : date? s = none := by
    unfold date?
    cases h : fixed? 4 s with
    | none => rfl
    | some p => simp [mark?_digits (fixed?_digits hs h) (show isDigit '-' = false by decide)]
  have htime : time? s = none := by
    unfold time?
    cases h : fixed? 2 s with
    | none => rfl
    | some p => simp [mark?_digits (fixed?_digits hs h) (show isDigit ':' = false by decide)]
  rw [isDatetime, hdate, htime]
  rfl

@[simp] theorem splitSign_digits (hs : ∀ c ∈ s, isDigit c = true) : splitSign s = (false, s) := by
  unfold splitSign
  split
  · exact absurd (hs '-' List.mem_cons_self) (by decide)
  · exact absurd (hs '+' List.mem_cons_self) (by decide)
  · rfl

theorem takeWhile_digits {p : Char → Bool} (hs : ∀ c ∈ s, isDigit c = true)
    (hp : ∀ c, isDigit c = true → p c = true) : s.takeWhile p = s ∧ s.dropWhile p = [] := by
  have hall : ∀ c ∈ s, p c = true := fun c hc => hp c (hs c hc)
  exact ⟨List.takeWhile_eq_self_iff.mpr hall, List.dropWhile_eq_nil_iff.mpr hall⟩

/-- Digits behind a sign or none are no float, as it needs a fraction or an exponent. -/
theorem isFloat_digits {negative : Bool} (hsign : splitSign s = (negative, r))
    (hr : ∀ c ∈ r, isDigit c = true) : isFloat s = false := by
  have hmark := takeWhile_digits (p := fun c => !(c = 'e' || c = 'E')) hr fun c hc => by
    simp [digit_ne hc (show isDigit 'e' = false by decide),
      digit_ne hc (show isDigit 'E' = false by decide)]
  have hpoint := takeWhile_digits (p := (· ≠ '.')) hr fun c hc => by
    simp [digit_ne hc (show isDigit '.' = false by decide)]
  have hinf : r ≠ ['i', 'n', 'f'] := fun h => absurd (hr 'i' (by simp [h])) (by decide)
  have hnan : r ≠ ['n', 'a', 'n'] := fun h => absurd (hr 'n' (by simp [h])) (by decide)
  unfold isFloat
  rw [hsign]
  dsimp only
  rw [if_neg (not_or.mpr ⟨hinf, hnan⟩), hmark.1, hmark.2, hpoint.1, hpoint.2]
  cases wholeDigits? r with
  | none => rfl
  | some w => simp

@[simp] private theorem ungroup?_digits (hs : ∀ c ∈ s, isDigit c = true) :
    ungroup? isDigit true s = some s := by
  induction s with
  | nil => rfl
  | cons c s ih =>
    rw [ungroup?, if_pos (hs c List.mem_cons_self), ih fun x hx => hs x (List.mem_cons_of_mem c hx)]
    rfl

@[simp] theorem wholeDigits?_numeral (n : Nat) : wholeDigits? (numeral n) = some (numeral n) := by
  have hdigits := Text.numeral_digits n
  unfold wholeDigits?
  by_cases hzero : (numeral n).head? = some '0'
  · rw [if_pos hzero, if_pos (Text.numeral_of_zero_head hzero)]
  · rw [if_neg hzero, digits?]
    cases h : numeral n with
    | nil => exact absurd h (Text.numeral_ne_nil n)
    | cons c s =>
      rw [h] at hdigits
      rw [ungroup?, if_pos (hdigits c List.mem_cons_self),
        ungroup?_digits fun x hx => hdigits x (List.mem_cons_of_mem c hx)]
      rfl

def fitting (n : Int) : Option Int :=
  if -(integerBound : Int) ≤ n ∧ n < integerBound then some n else none

/-- A numeral without a sign is read in decimal: a radix is told by a letter. -/
@[simp] private theorem integer?_numeral (n : Nat) : integer? (numeral n) = fitting n := by
  have hdigits := Text.numeral_digits n
  have hletter : ∀ x t, isDigit x = false → numeral n ≠ '0' :: x :: t := by
    intro x t hx h
    have hdigit := hdigits x (by simp [h])
    rw [hx] at hdigit
    cases hdigit
  have hvalue : Nat.ofDigitChars 10 (numeral n) 0 = n := Nat.ofDigitChars_ten_toDigits
  unfold integer?
  split
  · exact absurd ‹_› (hletter 'x' _ (by decide))
  · exact absurd ‹_› (hletter 'o' _ (by decide))
  · exact absurd ‹_› (hletter 'b' _ (by decide))
  · rw [splitSign_digits hdigits]
    dsimp only
    rw [wholeDigits?_numeral, Option.bind_eq_bind, Option.bind_eq_bind, Option.bind_some,
      Option.bind_some, hvalue, if_neg Bool.false_ne_true]
    rfl

@[simp] private theorem integer?_minus_numeral (n : Nat) :
    integer? ('-' :: numeral n) = fitting (-n) := by
  have hvalue : Nat.ofDigitChars 10 (numeral n) 0 = n := Nat.ofDigitChars_ten_toDigits
  unfold integer?
  split
  case h_4 =>
    rw [splitSign]
    dsimp only
    rw [wholeDigits?_numeral, Option.bind_eq_bind, Option.bind_eq_bind, Option.bind_some,
      Option.bind_some, hvalue, if_pos rfl]
    rfl
  all_goals
    rename_i h
    cases h

@[simp] theorem scalar?_signedNumeral (n : Int) :
    scalar? (Text.signedNumeral n) = (fitting n).map .integer := by
  have hdigits := Text.numeral_digits n.natAbs
  unfold Text.signedNumeral
  split
  · have hvalue : -(n.natAbs : Int) = n := by omega
    have hsign : splitSign ('-' :: numeral n.natAbs) = (true, numeral n.natAbs) := rfl
    rw [scalar?, if_neg (by simp), if_neg (by simp), isDatetime_minus, isFloat_digits hsign hdigits,
      integer?_minus_numeral, hvalue]
    rfl
  · have hvalue : (n.natAbs : Int) = n := by omega
    have htrue : numeral n.natAbs ≠ ['t', 'r', 'u', 'e'] :=
      fun h => absurd (hdigits 't' (by simp [h])) (by decide)
    have hfalse : numeral n.natAbs ≠ ['f', 'a', 'l', 's', 'e'] :=
      fun h => absurd (hdigits 'f' (by simp [h])) (by decide)
    rw [scalar?, if_neg htrue, if_neg hfalse, isDatetime_digits hdigits,
      isFloat_digits (splitSign_digits hdigits) hdigits, integer?_numeral, hvalue]
    rfl

theorem isWordChar_signedNumeral (n : Int) : ∀ c ∈ Text.signedNumeral n, isWordChar c = true := by
  have hword : ∀ m, ∀ c ∈ numeral m, isWordChar c = true := by
    intro m c hc
    have hdigit := Nat.isDigit_of_mem_toDigits (by decide) (Nat.le_refl 10) hc
    simp [isWordChar, Char.isAlphanum, hdigit]
  unfold Text.signedNumeral
  split
  · exact List.forall_mem_cons.mpr ⟨by decide, hword _⟩
  · exact hword _

theorem signedNumeral_ne_nil (n : Int) : Text.signedNumeral n ≠ [] := by
  unfold Text.signedNumeral
  split
  · exact List.cons_ne_nil _ _
  · exact Text.numeral_ne_nil _

@[simp] private theorem splitWord_line (hs : ∀ c ∈ s, isWordChar c = true) :
    splitWord (s ++ '\n' :: r) = (s, '\n' :: r) := by
  rw [splitWord, span_append hs (by decide)]
  rfl

theorem value?_word (fuel room : Nat) (hs : ∀ c ∈ s, isWordChar c = true) (hne : s ≠ []) :
    value? (fuel + 1) room (s ++ '\n' :: r) = (scalar? s).map (·, '\n' :: r) := by
  have hsplit := splitWord_line (r := r) hs
  cases s with
  | nil => exact absurd rfl hne
  | cons c s =>
    have hc := hs c List.mem_cons_self
    have hother : c ≠ '[' ∧ c ≠ '\x7b' ∧ c ≠ '\x22' ∧ c ≠ '\x27' := by
      refine ⟨?_, ?_, ?_, ?_⟩ <;> (rintro rfl; revert hc; decide)
    rw [List.cons_append] at hsplit ⊢
    unfold value?
    split
    case h_5 =>
      rw [hsplit]
      dsimp only
      cases scalar? (c :: s) <;> rfl
    all_goals
      rename_i h
      cases h
      simp at hother

theorem value?_string {t : List Char} (fuel room : Nat) (h : string? s = some (t, r)) :
    value? (fuel + 1) room s = some (.string (String.ofList t), r) := by
  have hvalue : value? (fuel + 1) room s =
      (string? s).map fun p => (.string (String.ofList p.1), p.2) := by
    unfold string? at h
    split at h
    case h_5 => cases h
    all_goals rw [value?]
  rw [hvalue, h]
  rfl

/-- A scalar at the end of a line reads back as its value. -/
@[simp] theorem value?_render {v : Scalar} (hv : v.Readable) (fuel room : Nat) :
    value? (fuel + 1) room (v.render ++ '\n' :: r) = some (v.value, '\n' :: r) := by
  cases v with
  | text t =>
    rw [Scalar.render, value?_string fuel room (string?_quoted t.toList r), String.ofList_toList]
    rfl
  | natural n =>
    have hfitting : fitting n = some (n : Int) :=
      if_pos (by have hn : n < integerBound := hv; omega)
    have hword := value?_word (r := r) fuel room (isWordChar_signedNumeral n)
      (signedNumeral_ne_nil n)
    rwa [scalar?_signedNumeral, hfitting, Text.signedNumeral_natCast] at hword
  | flag b =>
    cases b with
    | true => exact value?_word fuel room (List.all_eq_true.mp (by decide)) (by decide)
    | false => exact value?_word fuel room (List.all_eq_true.mp (by decide)) (by decide)

end Toml

end LogRouting
