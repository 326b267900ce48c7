import LogRouting.Console
import LogRouting.Proofs.Text
/-!
The texts that name a severity: one of its words in any ASCII case, with white space around it or
none; and the numbers that stand for one as raw levels. Words are read through the lower case of all
Unicode, yet no letter outside ASCII becomes part of one. Main statements: `ofText_eq_ok_iff`,
`leveled_ofRaw` and `words_read`.
-/
namespace LogRouting.Severity

def words : Severity → List String
  | warn => ["warn", "warning"]
  | v => [v.word]

/-- `s` is a word for `v` in any ASCII case, with white space around it or none. -/
def Names (s : List Char) (v : Severity) : Prop :=
  ∃ core, Text.InBlanks core s ∧ String.ofList (core.map Char.toLower) ∈ v.words

variable {s core : List Char} {w : String} {v : Severity}

@[simp] theorem ofWord?_eq_some_iff : ofWord? w = some v ↔ v.word = w := by
  constructor
  · intro h
    simpa using List.find?_some h
  · rintro rfl
    cases v <;> rfl

private theorem mem_words_iff : w ∈ v.words ↔ w = "warning" ∧ v = warn ∨ v.word = w := by
  cases v <;> simp [words, word, eq_comm, or_comm]

theorem isSmall_of_mem_words (h : w ∈ v.words) : ∀ c ∈ w.toList, Text.isSmall c = true := by
  have hall : ∀ v ∈ all, ∀ w ∈ v.words, w.toList.all Text.isSmall = true := by decide
  exact List.all_eq_true.mp (hall v (by cases v <;> decide) w h)

private theorem isBlank_of_toLower {c : Char} (h : Text.isSmall c.toLower = true) :
    Text.isBlank c = false := by
  have hall : ∀ n < 0x80, Text.isSmall (Char.ofNat n).toLower = true →
      Text.isBlank (Char.ofNat n) = false := by decide +kernel
  exact Text.of_ascii (P := fun c => Text.isSmall c.toLower = true → Text.isBlank c = false) hall
    (Text.toNat_lt_of_toLower h) h

theorem ofText_eq_ok {s : String} :
    ofText s = .ok v ↔ String.ofList (Text.lowercase (Text.trim s.toList)) ∈ v.words := by
  rw [mem_words_iff, ← ofWord?_eq_some_iff]
  unfold ofText
  dsimp only
  split
  · rename_i hw
    rw [hw]
    cases v <;> decide
  · rename_i hw
    simp only [hw, false_and, false_or]
    cases ofWord? _ <;> simp

theorem ofText_eq_ok_iff {s : String} : ofText s = .ok v ↔ Names s.toList v := by
  have hlower : ∀ core : List Char, String.ofList (core.map Char.toLower) ∈ v.words →
      ∀ c ∈ core, Text.isSmall c.toLower = true := by
    intro core hcore c hc
    have hmem : c.toLower ∈ (String.ofList (core.map Char.toLower)).toList := by
      rw [String.toList_ofList]
      exact List.mem_map_of_mem hc
    exact isSmall_of_mem_words hcore _ hmem
  rw [ofText_eq_ok]
  constructor
  · intro h
    have hsmall := isSmall_of_mem_words h
    rw [String.toList_ofList] at hsmall
    refine ⟨Text.trim s.toList, Text.inBlanks_trim s.toList, ?_⟩
    rwa [(Text.lowercase_eq_iff hsmall).mp rfl]
  · rintro ⟨core, hs, hcore⟩
    have hsmall := hlower core hcore
    have htrim := (Text.trim_eq_iff fun c hc => isBlank_of_toLower (hsmall c hc)).mpr hs
    have hmap : ∀ c ∈ core.map Char.toLower, Text.isSmall c = true := by
      simpa using hsmall
    rwa [htrim, (Text.lowercase_eq_iff hmap).mpr rfl]

theorem ofText_error {s : String} {e : LogError} (h : ofText s = .error e) :
    e = .unknownWord (String.ofList (Text.lowercase (Text.trim s.toList))) := by
  unfold ofText at h
  dsimp only at h
  split at h
  · cases h
  · split at h
    · cases h
    · exact (Except.error.inj h).symm

/-! Raw levels -/

def Fits (n : Int) : Prop :=
  -2147483648 ≤ n ∧ n ≤ 2147483647

instance (n : Int) : Decidable (Fits n) :=
  inferInstanceAs (Decidable (_ ∧ _))

/-- What a raw level is read as: a negative one sets nothing, one of the wire scale is its
severity, and any other is unknown. -/
structure Leveled (n : Int) (r : Except LogError (Option Severity)) : Prop where
  negative : n < 0 → r = .ok none
  wire : ∀ v : Severity, v.level.toInt = n → r = .ok (some v)
  other : 0 ≤ n → (∀ v : Severity, v.level.toInt ≠ n) →
    r = .error (.invalidArgument
      ("unknown severity level " ++ String.ofList (Text.signedNumeral n)))

@[simp] theorem ofLevel?_eq_some_iff {m : Int32} : ofLevel? m = some v ↔ v.level = m := by
  constructor
  · intro h
    simpa using List.find?_some h
  · rintro rfl
    cases v <;> rfl

theorem leveled_ofRaw {n : Int} (h : Fits n) : Leveled n (ofRaw (.ofInt n)) := by
  have hvalue : (Int32.ofInt n).toInt = n := by
    obtain ⟨hlow, hhigh⟩ := h
    exact Int32.toInt_ofInt_of_le (by omega) (by omega)
  have hnegative : Int32.ofInt n < 0 ↔ n < 0 := by
    rw [Int32.lt_iff_toInt_lt, hvalue]
    rfl
  have hlevel : ∀ v : Severity, v.level = Int32.ofInt n ↔ v.level.toInt = n := by
    intro v
    rw [← Int32.toInt_inj, hvalue]
  refine ⟨fun hn => if_pos (hnegative.mpr hn), fun v hv => ?_, fun hn hv => ?_⟩
  · have hn : ¬n < 0 := by
      rw [← hv]
      cases v <;> decide
    rw [ofRaw, if_neg fun h => hn (hnegative.mp h), ofLevel?_eq_some_iff.mpr ((hlevel v).mpr hv)]
  · have hnone : ofLevel? (Int32.ofInt n) = none := by
      rw [Option.eq_none_iff_forall_ne_some]
      exact fun v hv' => hv v ((hlevel v).mp (ofLevel?_eq_some_iff.mp hv'))
    rw [ofRaw, if_neg fun h => absurd (hnegative.mp h) (by omega), hnone]
    dsimp only
    rw [LogError.unknownLevel, hvalue]

end LogRouting.Severity

namespace LogRouting

/-! Severities and console formats by their words -/

namespace Text

def SameLetters (s w : List Char) : Prop :=
  s.map Char.toLower = w.map Char.toLower

variable {s : List Char} {w : String} {c : Char}

@[simp] theorem toLower_of_isSmall (h : isSmall c = true) : c.toLower = c := by
  refine dif_neg ?_
  rintro ⟨-, hhigh⟩
  have hle : c.toNat ≤ 0x5A := hhigh
  have hbounds := toNat_of_isSmall h
  omega

section
variable (hw : ∀ c ∈ w.toList, isSmall c = true)
include hw

theorem sameLetters_iff : SameLetters s w.toList ↔ s.map Char.toLower = w.toList := by
  have hlower : w.toList.map Char.toLower = w.toList.map id :=
    List.map_congr_left fun c hc => toLower_of_isSmall (hw c hc)
  rw [SameLetters, hlower, List.map_id]

private theorem lowercase_eq_word : String.ofList (lowercase s) = w ↔ SameLetters s w.toList := by
  rw [sameLetters_iff hw, ← lowercase_eq_iff hw, ← String.toList_inj, String.toList_ofList]

theorem toNat_lt_of_sameLetters (h : SameLetters s w.toList) : ∀ c ∈ s, c.toNat < 0x80 := by
  intro c hc
  have hmem : c.toLower ∈ w.toList := by
    rw [← (sameLetters_iff hw).mp h]
    exact List.mem_map_of_mem hc
  exact toNat_lt_of_toLower (hw _ hmem)

end

end Text

open Text (SameLetters)

namespace Severity

def spellings : List (String × Severity) :=
  [("unset", unset), ("debug", debug), ("info", info), ("warn", warn), ("warning", warn),
    ("error", error), ("fatal", fatal)]

variable {s w : String} {v : Severity}

theorem mem_spellings_iff : (w, v) ∈ spellings ↔ w ∈ v.words := by
  cases v <;> simp [words, word, spellings]

theorem isSmall_of_mem_spellings (h : (w, v) ∈ spellings) :
    ∀ c ∈ w.toList, Text.isSmall c = true :=
  isSmall_of_mem_words (mem_spellings_iff.mp h)

theorem ofText_eq_ok_iff_spelling : ofText s = .ok v ↔
    ∃ w core, (w, v) ∈ spellings ∧ Text.InBlanks core s.toList ∧ SameLetters core w.toList := by
  rw [ofText_eq_ok_iff]
  constructor
  · rintro ⟨core, hs, hcore⟩
    have hw := mem_spellings_iff.mpr hcore
    refine ⟨_, core, hw, hs, (Text.sameLetters_iff (isSmall_of_mem_spellings hw)).mpr ?_⟩
    exact String.toList_ofList.symm
  · rintro ⟨w, core, hw, hs, hsame⟩
    refine ⟨core, hs, ?_⟩
    rw [(Text.sameLetters_iff (isSmall_of_mem_spellings hw)).mp hsame, String.ofList_toList]
    exact mem_spellings_iff.mp hw

end Severity

namespace ConsoleFormat

def spellings : List (String × ConsoleFormat) :=
  [("json", json), ("raw", raw)]

variable {s w : String} {f : ConsoleFormat}

theorem isSmall_of_mem_spellings (h : (w, f) ∈ spellings) :
    ∀ c ∈ w.toList, Text.isSmall c = true := by
  have hall : spellings.all (·.1.toList.all Text.isSmall) = true := by decide
  exact List.all_eq_true.mp (List.all_eq_true.mp hall (w, f) h)

theorem ofText_eq_iff_spelling (h : (w, f) ∈ spellings) :
    ofText s = f ↔ SameLetters s.toList w.toList := by
  rw [← Text.lowercase_eq_word (isSmall_of_mem_spellings h)]
  simp only [spellings, List.mem_cons, Prod.mk.injEq, List.not_mem_nil, or_false] at h
  unfold ofText
  dsimp only
  rcases h with ⟨rfl, rfl⟩ | ⟨rfl, rfl⟩ <;> split
  · simp [*]
  · split <;> simp [*]
  · simp [*]
  · split <;> simp [*]

private theorem exists_spelling (h : f ≠ pretty) : ∃ w, (w, f) ∈ spellings := by
  cases f with
  | pretty => exact absurd rfl h
  | json => exact ⟨"json", by simp [spellings]⟩
  | raw => exact ⟨"raw", by simp [spellings]⟩

theorem ofText_eq_json_iff : ofText s = .json ↔ SameLetters s.toList "json".toList :=
  ofText_eq_iff_spelling (by simp [spellings])

theorem ofText_eq_raw_iff : ofText s = .raw ↔ SameLetters s.toList "raw".toList :=
  ofText_eq_iff_spelling (by simp [spellings])

theorem ofText_eq_pretty_iff : ofText s = .pretty ↔
    ¬SameLetters s.toList "json".toList ∧ ¬SameLetters s.toList "raw".toList := by
  rw [← ofText_eq_json_iff, ← ofText_eq_raw_iff]
  cases ofText s <;> decide

end ConsoleFormat

/-- A severity is read from each of its words, in any case of ASCII letters and with white space
around it, and from nothing else. A console format is read from its word in any case of ASCII
letters without white space; anything else is the default. So a text that is read as a word has no
character beyond ASCII but for the white space around a severity. -/
theorem words_read (s : String) :
    (∀ v, Severity.ofText s = .ok v ↔
      ∃ w core, (w, v) ∈ Severity.spellings ∧ Text.InBlanks core s.toList ∧
        SameLetters core w.toList) ∧
    (ConsoleFormat.ofText s = .json ↔ SameLetters s.toList "json".toList) ∧
    (ConsoleFormat.ofText s = .raw ↔ SameLetters s.toList "raw".toList) ∧
    (ConsoleFormat.ofText s = .pretty ↔
      ¬SameLetters s.toList "json".toList ∧ ¬SameLetters s.toList "raw".toList) ∧
    (∀ v, Severity.ofText s = .ok v → ∀ c ∈ s.toList, Text.isBlank c = true ∨ c.toNat < 0x80) ∧
    (ConsoleFormat.ofText s ≠ .pretty → ∀ c ∈ s.toList, c.toNat < 0x80) := by
  refine ⟨fun v => Severity.ofText_eq_ok_iff_spelling, ConsoleFormat.ofText_eq_json_iff,
    ConsoleFormat.ofText_eq_raw_iff, ConsoleFormat.ofText_eq_pretty_iff, ?_, ?_⟩
  · intro v h
    obtain ⟨w, core, hw, ⟨before, after, hbefore, hafter, hs⟩, hsame⟩ :=
      Severity.ofText_eq_ok_iff_spelling.mp h
    have hcore := Text.toNat_lt_of_sameLetters (Severity.isSmall_of_mem_spellings hw) hsame
    intro c hc
    rw [hs, List.mem_append, List.mem_append] at hc
    rcases hc with (hc | hc) | hc
    · exact .inl (hbefore c hc)
    · exact .inr (hcore c hc)
    · exact .inl (hafter c hc)
  · intro hread
    obtain ⟨w, hw⟩ := ConsoleFormat.exists_spelling hread
    exact Text.toNat_lt_of_sameLetters (ConsoleFormat.isSmall_of_mem_spellings hw)
      ((ConsoleFormat.ofText_eq_iff_spelling hw).mp rfl)

/-- The lower case of a dotted capital I is two characters, and only the first of them is an i. -/
example : Severity.ofText "İNFO" = .error (.unknownWord "i\u0307nfo") := by decide +kernel

end LogRouting
