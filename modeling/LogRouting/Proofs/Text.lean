import LogRouting.Relay
import Mathlib.Data.List.TakeDrop
import Mathlib.Data.List.TakeWhile
/-!
Laws of text. It is cut where its characters stop having a property, and cleared of the characters
of a kind at its ends, such as white space; numerals are read back as the integers they denote; a
text in any case is an ASCII word, or it is not; and a byte that is also an ASCII character stands
for that character alone. Main statements: `strip_of_stripped`, `trim_eq_iff`,
`integer?_eq_some_iff`, `lowercase_eq_iff`.
-/
namespace LogRouting.Text

/-! Cutting -/

variable {p : Char → Bool} {c : Char} {s r core before : List Char}

theorem span_append (hs : ∀ x ∈ s, p x = true) (hc : p c = false) :
    (s ++ c :: r).span p = (s, c :: r) := by
  rw [List.span_eq_takeWhile_dropWhile, List.takeWhile_append_of_pos hs,
    List.dropWhile_append_of_pos hs, List.takeWhile_cons_of_neg (by simp [hc]),
    List.dropWhile_cons_of_neg (by simp [hc]), List.append_nil]

/-! Ends -/

def strip (p : Char → Bool) (s : List Char) : List Char :=
  ((s.dropWhile p).reverse.dropWhile p).reverse

/-- `s` is `core` with characters of a kind before and after it, or none, and `core` neither begins
nor ends with one. -/
structure Stripped (p : Char → Bool) (core s : List Char) : Prop where
  within : ∃ before after, (∀ c ∈ before, p c = true) ∧ (∀ c ∈ after, p c = true) ∧
    s = before ++ core ++ after
  head : ∀ c ∈ core.head?, p c = false
  last : ∀ c ∈ core.getLast?, p c = false

theorem head_dropWhile (p : Char → Bool) (s : List Char) :
    ∀ c ∈ (s.dropWhile p).head?, p c = false := by
  intro c hc
  have hhead := List.head?_dropWhile_not p s
  rw [Option.mem_def.mp hc] at hhead
  simpa using hhead

theorem dropWhile_of_head (h : ∀ c ∈ s.head?, p c = false) : s.dropWhile p = s := by
  cases s with
  | nil => rfl
  | cons c s => exact List.dropWhile_cons_of_neg (by simp [h c rfl])

theorem stripped_strip (p : Char → Bool) (s : List Char) : Stripped p (strip p s) s := by
  have hend : s.dropWhile p = strip p s ++ ((s.dropWhile p).reverse.takeWhile p).reverse := by
    rw [strip, ← List.reverse_append, List.takeWhile_append_dropWhile, List.reverse_reverse]
  refine ⟨⟨s.takeWhile p, ((s.dropWhile p).reverse.takeWhile p).reverse, ?_, ?_, ?_⟩, ?_, ?_⟩
  · exact fun c hc => List.mem_takeWhile_imp hc
  · exact fun c hc => List.mem_takeWhile_imp (List.mem_reverse.mp hc)
  · rw [List.append_assoc, ← hend, List.takeWhile_append_dropWhile]
  · intro c hc
    apply head_dropWhile p s
    rw [hend, List.head?_append, Option.mem_def.mp hc]
    rfl
  · intro c hc
    rw [strip, List.getLast?_reverse] at hc
    exact head_dropWhile p _ c hc

/-- There is but one way to take the characters of a kind off the ends of a text. -/
theorem strip_of_stripped (h : Stripped p core s) : strip p s = core := by
  obtain ⟨⟨before, after, hbefore, hafter, rfl⟩, hhead, hlast⟩ := h
  have hreverse : ∀ c ∈ after.reverse, p c = true := fun c hc => hafter c (List.mem_reverse.mp hc)
  have hlast' : core.reverse.dropWhile p = core.reverse :=
    dropWhile_of_head (by rwa [List.head?_reverse])
  rw [strip, List.append_assoc, List.dropWhile_append_of_pos hbefore]
  cases core with
  | nil =>
    rw [List.nil_append, List.dropWhile_eq_nil_iff.mpr hafter]
    rfl
  | cons c core =>
    have hstart : (c :: core ++ after).dropWhile p = c :: core ++ after := dropWhile_of_head hhead
    rw [hstart, List.reverse_append, List.dropWhile_append_of_pos hreverse, hlast',
      List.reverse_reverse]

/-! White space -/

def AllBlank (s : List Char) : Prop :=
  ∀ c ∈ s, isBlank c = true

instance (s : List Char) : Decidable (AllBlank s) :=
  decidable_of_iff (s.all isBlank = true) List.all_eq_true

def InBlanks (core s : List Char) : Prop :=
  ∃ before after, AllBlank before ∧ AllBlank after ∧ s = before ++ core ++ after

theorem trimStart_append (h : AllBlank before) (s : List Char) :
    trimStart (before ++ s) = trimStart s :=
  List.dropWhile_append_of_pos h

theorem trimStart_of_head (h : ∀ c ∈ s.head?, isBlank c = false) : trimStart s = s :=
  dropWhile_of_head h

theorem exists_trimStart (s : List Char) : ∃ before, AllBlank before ∧ s = before ++ trimStart s :=
  ⟨s.takeWhile isBlank, fun _ hc => List.mem_takeWhile_imp hc,
    List.takeWhile_append_dropWhile.symm⟩

theorem head_trimStart (s : List Char) : ∀ c ∈ (trimStart s).head?, isBlank c = false :=
  head_dropWhile isBlank s

theorem inBlanks_trim (s : List Char) : InBlanks (trim s) s :=
  (stripped_strip isBlank s).within

theorem trim_eq_iff (hcore : ∀ c ∈ core, isBlank c = false) : trim s = core ↔ InBlanks core s := by
  constructor
  · rintro rfl
    exact inBlanks_trim s
  · intro h
    have hstripped : Stripped isBlank core s :=
      ⟨h, fun c hc => hcore c (List.mem_of_head? hc), fun c hc => hcore c (List.mem_of_getLast? hc)⟩
    exact strip_of_stripped hstripped

end LogRouting.Text

namespace LogRouting.Text

/-! Numerals -/

theorem numeral_digits (n : Nat) : ∀ c ∈ numeral n, isDigit c = true := by
  intro c hc
  have hdigit := Nat.isDigit_of_mem_toDigits (by decide) (Nat.le_refl 10) hc
  simpa [isDigit, Char.isDigit, Char.le_def] using hdigit

theorem numeral_ne_nil (n : Nat) : numeral n ≠ [] :=
  Nat.toDigits_ne_nil

theorem numeral_of_zero_head {n : Nat} (h : (numeral n).head? = some '0') :
    numeral n = ['0'] := by
  unfold numeral at *
  induction n using Nat.strongRecOn with
  | ind n ih =>
    by_cases hn : n < 10
    · rw [Nat.toDigits_of_lt_base hn] at h ⊢
      exact congrArg (fun c => [c]) (Option.some.inj h)
    · have hdiv : n / 10 < n := by omega
      rw [Nat.toDigits_of_base_le (by decide) (by omega), List.head?_append] at h
      cases hhead : (Nat.toDigits 10 (n / 10)).head? with
      | none => exact absurd (List.head?_eq_none_iff.mp hhead) Nat.toDigits_ne_nil
      | some c =>
        rw [hhead, Option.some_or, ← hhead] at h
        have hvalue := Nat.ofDigitChars_ten_toDigits (n := n / 10)
        rw [ih (n / 10) hdiv h] at hvalue
        have hzero : n / 10 = 0 := hvalue.symm
        omega

theorem digit_ne {c x : Char} (hc : isDigit c = true) (hx : isDigit x = false) : c ≠ x := by
  intro h
  rw [h, hx] at hc
  cases hc

theorem toNat_of_isDigit {c : Char} (h : isDigit c = true) : 0x30 ≤ c.toNat ∧ c.toNat ≤ 0x39 := by
  rw [isDigit, Bool.and_eq_true, decide_eq_true_eq, decide_eq_true_eq] at h
  exact ⟨Char.le_def.mp h.1, Char.le_def.mp h.2⟩

private theorem isBlank_of_isDigit {c : Char} (h : isDigit c = true) : isBlank c = false := by
  have hbounds := toNat_of_isDigit h
  simp only [isBlank, Bool.or_eq_false_iff, Bool.and_eq_false_iff, decide_eq_false_iff_not,
    beq_eq_false_iff_ne]
  omega

@[simp] theorem toLower_of_isDigit {c : Char} (h : isDigit c = true) : c.toLower = c := by
  have hbounds := toNat_of_isDigit h
  refine dif_neg ?_
  rintro ⟨hlow, -⟩
  have hle : 0x41 ≤ c.toNat := hlow
  omega

theorem le_toNat_numeral (n : Nat) : ∀ c ∈ numeral n, 0x20 ≤ c.toNat :=
  fun c hc => Nat.le_trans (by decide) (toNat_of_isDigit (numeral_digits n c hc)).1

theorem le_toNat_signedNumeral (n : Int) : ∀ c ∈ signedNumeral n, 0x20 ≤ c.toNat := by
  unfold signedNumeral
  split
  · exact List.forall_mem_cons.mpr ⟨by decide, le_toNat_numeral _⟩
  · exact le_toNat_numeral _

@[simp] theorem signedNumeral_natCast (n : Nat) : signedNumeral (n : Int) = numeral n := by
  rw [signedNumeral, if_neg (by omega), Int.natAbs_natCast]

/-! Integers -/

def Digits (s : List Char) : Prop :=
  s ≠ [] ∧ ∀ c ∈ s, isDigit c = true

def value (s : List Char) : Nat :=
  Nat.ofDigitChars 10 s 0

/-- The texts of an integer: digits, after a sign of either kind or none. -/
inductive Denotes : List Char → Int → Prop
  | bare {s : List Char} : Digits s → Denotes s (value s)
  | plus {s : List Char} : Digits s → Denotes ('+' :: s) (value s)
  | minus {s : List Char} : Digits s → Denotes ('-' :: s) (-value s)

variable {s : List Char} {n : Int}

theorem natural?_map_iff {f : Nat → Int} :
    (natural? s).map f = some n ↔ Digits s ∧ f (value s) = n := by
  rw [natural?, Option.map_eq_some_iff]
  simp only [Option.ite_none_right_eq_some, List.all_eq_true]
  constructor
  · rintro ⟨m, ⟨hs, hm⟩, rfl⟩
    exact ⟨hs, congrArg f (Option.some.inj hm)⟩
  · rintro ⟨hs, rfl⟩
    exact ⟨value s, ⟨hs, rfl⟩, rfl⟩

theorem integer?_minus (s : List Char) : integer? ('-' :: s) = (natural? s).map (-↑·) := by
  rw [integer?]
  cases natural? s <;> rfl

theorem integer?_eq_some_iff : integer? s = some n ↔ Denotes s n := by
  constructor
  · intro h
    unfold integer? at h
    split at h
    · rw [← integer?, integer?_minus] at h
      obtain ⟨hs, rfl⟩ := natural?_map_iff.mp h
      exact .minus hs
    · obtain ⟨hs, rfl⟩ := natural?_map_iff.mp h
      exact .plus hs
    · obtain ⟨hs, rfl⟩ := natural?_map_iff.mp h
      exact .bare hs
  · intro h
    cases h with
    | bare hs =>
      unfold integer?
      split
      · exact absurd (hs.2 '-' List.mem_cons_self) (by decide)
      · exact absurd (hs.2 '+' List.mem_cons_self) (by decide)
      · exact natural?_map_iff.mpr ⟨hs, rfl⟩
    | plus hs => exact natural?_map_iff.mpr ⟨hs, rfl⟩
    | minus hs =>
      rw [integer?_minus]
      exact natural?_map_iff.mpr ⟨hs, rfl⟩

theorem Denotes.chars (h : Denotes s n) : ∀ c ∈ s, c = '+' ∨ c = '-' ∨ isDigit c = true := by
  cases h with
  | bare hs => exact fun c hc => .inr (.inr (hs.2 c hc))
  | plus hs =>
    exact List.forall_mem_cons.mpr ⟨.inl rfl, fun c hc => .inr (.inr (hs.2 c hc))⟩
  | minus hs =>
    exact List.forall_mem_cons.mpr ⟨.inr (.inl rfl), fun c hc => .inr (.inr (hs.2 c hc))⟩

theorem Denotes.isBlank_eq_false (h : Denotes s n) : ∀ c ∈ s, isBlank c = false := by
  intro c hc
  rcases h.chars c hc with rfl | rfl | hdigit
  · decide
  · decide
  · exact isBlank_of_isDigit hdigit

theorem Digits.exists_digit (h : Digits s) : ∃ c ∈ s, isDigit c = true := by
  obtain ⟨c, hc⟩ := List.exists_mem_of_ne_nil s h.1
  exact ⟨c, hc, h.2 c hc⟩

theorem Denotes.exists_digit (h : Denotes s n) : ∃ c ∈ s, isDigit c = true := by
  cases h with
  | bare hs => exact hs.exists_digit
  | plus hs | minus hs =>
    obtain ⟨c, hc, hdigit⟩ := hs.exists_digit
    exact ⟨c, List.mem_cons_of_mem _ hc, hdigit⟩

end LogRouting.Text

namespace LogRouting.Text

/-! Case folding into ASCII words. The lower-case mapping is one of all Unicode and depends on
context; still, a text is mapped to a word of small ASCII letters only if it is that word up to the
case of ASCII letters, as long as the word has no k: the Kelvin sign is mapped to one. -/

def isSmall (c : Char) : Bool :=
  'a' ≤ c && c ≤ 'z' && c != 'k'

variable {c : Char} {s w : List Char}

theorem toNat_of_isSmall (h : isSmall c = true) : 97 ≤ c.toNat ∧ c.toNat ≤ 122 ∧ c.toNat ≠ 107 := by
  simp only [isSmall, Bool.and_eq_true, decide_eq_true_eq, bne_iff_ne] at h
  obtain ⟨⟨hlow, hhigh⟩, hk⟩ := h
  exact ⟨Char.le_def.mp hlow, Char.le_def.mp hhigh, fun heq => hk (Char.toNat_inj.mp heq)⟩

/-! Single characters -/

/-- Letters of ASCII are mapped by the first run of the table. All others start beyond ASCII, and
lead beyond ASCII, but for that of the Kelvin sign. -/
private theorem tail_caseRuns : ∀ r ∈ caseRuns.tail, 0x80 ≤ r.first ∧
    (0x80 ≤ r.first + r.shift ∨ r.first = 0x212A ∧ r.last = 0x212A ∧ r.shift = -8383) := by
  decide +kernel

private theorem caseRuns_eq : caseRuns = ⟨0x41, 0x5A, 1, 32⟩ :: caseRuns.tail := rfl

private theorem le_of_covers {r : CaseRun} {n : Nat} (h : r.covers n = true) :
    r.first ≤ n ∧ n ≤ r.last := by
  simp only [CaseRun.covers, Bool.and_eq_true, decide_eq_true_eq] at h
  exact h.1

theorem of_ascii {P : Char → Prop} (h : ∀ n < 0x80, P (Char.ofNat n)) (hc : c.toNat < 0x80) :
    P c :=
  Char.ofNat_toNat c ▸ h c.toNat hc

@[simp] theorem lowerChar_ascii (h : c.toNat < 0x80) : lowerChar c = [c.toLower] := by
  have hall : ∀ n < 0x80, lowerChar (Char.ofNat n) = [(Char.ofNat n).toLower] := by
    decide +kernel
  exact of_ascii (P := fun c => lowerChar c = [c.toLower]) hall h

theorem toNat_ofNat (n : Nat) : (Char.ofNat n).toNat = n ∨ (Char.ofNat n).toNat = 0 := by
  by_cases hn : n.isValidChar
  · have hchar : Char.ofNat n = Char.ofNatAux n hn := dif_pos hn
    exact .inl (congrArg Char.toNat hchar)
  · have hchar : Char.ofNat n = '\x00' := dif_neg hn
    exact .inr (congrArg Char.toNat hchar)

@[simp] private theorem not_isSmall_ofNat {n : Nat} (h : 0x80 ≤ n) :
    isSmall (Char.ofNat n) = false := by
  rw [Bool.eq_false_iff]
  intro hsmall
  have hbounds := toNat_of_isSmall hsmall
  rcases toNat_ofNat n with hvalue | hvalue <;> omega

private theorem toNat_lt_of_lowerChar (h : ∀ x ∈ lowerChar c, isSmall x = true) :
    c.toNat < 0x80 := by
  refine Nat.lt_of_not_le fun hc => ?_
  unfold lowerChar at h
  split at h
  · -- a dotted capital I keeps its dot
    exact absurd (h '\u0307' (by simp)) (by decide)
  split at h
  · rename_i r hr
    have hcovers : r.covers c.toNat = true := by simpa using List.find?_some hr
    have hbounds := le_of_covers hcovers
    have hmem := List.mem_of_find?_eq_some hr
    rw [caseRuns_eq] at hmem
    have hsmall := h _ (List.mem_singleton.mpr rfl)
    rcases List.mem_cons.mp hmem with rfl | htail
    · have hlast : c.toNat ≤ 0x5A := hbounds.2
      omega
    · rcases (tail_caseRuns r htail).2 with hbeyond | ⟨hfirst, hlast, hshift⟩
      · rw [not_isSmall_ofNat (by omega)] at hsmall
        cases hsmall
      · have hkelvin : c.toNat = 0x212A := by omega
        rw [hkelvin, hshift] at hsmall
        exact absurd hsmall (by decide)
  · have hsmall := h c (List.mem_singleton.mpr rfl)
    have hbounds := toNat_of_isSmall hsmall
    omega

theorem toNat_lt_of_toLower (h : isSmall c.toLower = true) : c.toNat < 0x80 := by
  refine Nat.lt_of_not_le fun hc => ?_
  have hsame : c.toLower = c := by
    refine dif_neg ?_
    rintro ⟨-, hhigh⟩
    have hle : c.toNat ≤ 0x5A := hhigh
    omega
  rw [hsame] at h
  have hbounds := toNat_of_isSmall h
  omega

/-! Texts -/

theorem lowercaseAfter_eq_iff (hw : ∀ c ∈ w, isSmall c = true) (before : List Char) :
    lowercaseAfter before s = w ↔ s.map Char.toLower = w := by
  induction s generalizing before w with
  | nil => exact Iff.rfl
  | cons c s ih =>
    by_cases hc : c.toNat < 0x80
    · have hsigma : c ≠ 'Σ' := by
        rintro rfl
        exact absurd hc (by decide)
      have hstep :
          lowercaseAfter before (c :: s) = c.toLower :: lowercaseAfter (c :: before) s := by
        simp [lowercaseAfter, hsigma, lowerChar_ascii hc]
      rw [hstep, List.map_cons]
      cases w with
      | nil => simp
      | cons x w =>
        rw [List.cons.injEq, List.cons.injEq, ih fun y hy => hw y (List.mem_cons_of_mem x hy)]
    · -- either side would put the character into ASCII
      refine ⟨fun h => absurd ?_ hc, fun h => absurd ?_ hc⟩
      · rw [lowercaseAfter] at h
        split at h
        · have hsigma := hw 'ς' (h ▸ List.mem_append_left _ (List.mem_singleton.mpr rfl))
          exact absurd hsigma (by decide)
        · exact toNat_lt_of_lowerChar fun x hx => hw x (h ▸ List.mem_append_left _ hx)
      · exact toNat_lt_of_toLower (hw _ (h ▸ List.mem_cons_self))

/-- A text has a word of small letters as its lower case only if it is that word in any ASCII
case. -/
theorem lowercase_eq_iff (hw : ∀ c ∈ w, isSmall c = true) :
    lowercase s = w ↔ s.map Char.toLower = w :=
  lowercaseAfter_eq_iff hw []

end LogRouting.Text

namespace LogRouting

/-! Text as bytes -/

@[simp] theorem utf8_nil : utf8 [] = [] := rfl

@[simp] theorem utf8_append (s s' : List Char) : utf8 (s ++ s') = utf8 s ++ utf8 s' :=
  List.flatMap_append

@[simp] theorem utf8_flatten (ss : List (List Char)) : utf8 ss.flatten = (ss.map utf8).flatten := by
  induction ss with
  | nil => rfl
  | cons s ss ih => rw [List.flatten_cons, utf8_append, ih, List.map_cons, List.flatten_cons]

theorem toNat_of_mem_utf8EncodeChar {b : UInt8} (hb : b.toNat < 0x80) {c : Char}
    (h : b ∈ String.utf8EncodeChar c) : c.toNat = b.toNat := by
  have hvalue : c.toNat = c.val.toNat := rfl
  have hlt : c.val.toNat < 0x110000 := by
    rcases c.valid with h | h <;> omega
  unfold String.utf8EncodeChar at h
  dsimp only at h
  split at h
  · rw [List.mem_singleton.mp h, UInt8.toNat_ofNat']
    omega
  · -- the first byte of a longer character is at least 0xC0, the others are at least 0x80
    exfalso
    repeat' split at h
    all_goals
      simp only [List.mem_cons, List.not_mem_nil, or_false] at h
      rcases h with rfl | rfl | rfl | rfl <;> simp only [UInt8.toNat_ofNat'] at hb <;> omega

@[simp] theorem count_newline_utf8 (s : List Char) :
    (utf8 s).count Relay.newline = s.count '\n' := by
  induction s with
  | nil => rfl
  | cons c s ih =>
    have hsplit : utf8 (c :: s) = String.utf8EncodeChar c ++ utf8 s := rfl
    rw [hsplit, List.count_append, ih, List.count_cons, Nat.add_comm]
    congr 1
    by_cases hc : c = '\n'
    · subst hc
      decide
    · have hbytes : Relay.newline ∉ String.utf8EncodeChar c := by
        intro hmem
        exact hc (Char.toNat_inj.mp (toNat_of_mem_utf8EncodeChar (by decide) hmem))
      rw [List.count_eq_zero_of_not_mem hbytes, if_neg (by simpa using hc)]

theorem newline_not_mem_utf8 {s : List Char} (h : '\n' ∉ s) : Relay.newline ∉ utf8 s := by
  rw [← List.count_eq_zero] at h ⊢
  rw [count_newline_utf8, h]

@[simp] theorem decode?_utf8 (s : List Char) : decode? (utf8 s) = some (String.ofList s) := by
  have hbytes : (⟨(utf8 s).toArray⟩ : ByteArray) = (String.ofList s).toByteArray := by
    change _ = (s.flatMap String.utf8EncodeChar).toByteArray
    ext1
    simp [utf8]
  rw [decode?, hbytes, String.fromUTF8?, dif_pos (String.ofList s).isValidUTF8]
  rfl

end LogRouting
