import LogRouting.Proofs.Config.RoundTrip
import LogRouting.Proofs.Severity
import LogRouting.Relay.CommandLine
/-!
The default severity on the command line, as a raw level, and in a configuration file. Main
statement: `parseLevel_agrees`.
-/
namespace LogRouting.Config

/-! The value of the setting, among others and in a document that sets nothing else -/

open Toml
open Severity (Fits)

def severityText (value : List Char) : String :=
  String.ofList (single "logging" "default_severity" value)

def ofSeverity : Except LogError (Option Severity) → Except LogError Config
  | .ok severity => .ok { logging := { severity } }
  | .error cause => .error (.config ("Failed to parse config: " ++ cause.message))

/-- A default severity of value `v` is read as `r`: alone in a document, in whatever way it is
written, and among other settings. One way to write it is `w`. -/
structure ReadsAs (v : Value) (w : List Char) (r : Except LogError (Option Severity)) : Prop where
  spells : Spells w (some v)
  alone : ∀ s, Spells s (some v) → ofToml (severityText s) = ofSeverity r
  among : ∀ before after o,
    Entries.read optionFields (before ++ ("default_severity", v) :: after) o =
      (Entries.read optionFields before o).bind fun o =>
        (r.mapError Fault.severity).bind fun severity =>
          Entries.read optionFields after { o with severity }

def unparsed : LogError :=
  .config ("Failed to parse config: " ++ Fault.malformed.reason)

variable {s : List Char} {v : Value} {n : Int} {r : Except LogError (Option Severity)}

/-! Values -/

private theorem severity_level (hn : Fits n) :
    severity (Value.integer n) = (Severity.ofRaw (.ofInt n)).mapError Fault.severity := by
  have hlevel : Source.levelOrWord (Value.integer n) =
      (.ok (.inl (.ofInt n)) : Except Fault (Int32 ⊕ String)) := if_pos hn
  rw [severity, hlevel]
  rfl

theorem severity_unfit (hn : ¬Fits n) : severity (Value.integer n) = .error Fault.malformed := by
  have hlevel : Source.levelOrWord (Value.integer n) =
      (.error .malformed : Except Fault (Int32 ⊕ String)) := if_neg hn
  rw [severity, hlevel]
  rfl

/-! Documents -/

@[simp] theorem read_severity (v : Value) (o : Options) :
    Entries.read optionFields [("default_severity", v)] o =
      (severity v).map fun severity => { o with severity } := by
  cases hv : severity v <;> simp [Entries.read, optionFields, hv] <;> rfl

theorem read_among (v : Value) (before after : Entries) (o : Options) :
    Entries.read optionFields (before ++ ("default_severity", v) :: after) o =
      (Entries.read optionFields before o).bind fun o =>
        (severity v).bind fun severity => Entries.read optionFields after { o with severity } := by
  rw [read_append]
  congr 1
  funext o
  rw [← List.singleton_append, read_append, read_severity]
  cases severity v <;> rfl

private theorem read_logging_alone (v : Value) :
    Entries.read fields [("logging", v)] {} =
      (Source.table optionFields v {}).map fun logging => { logging } := by
  cases hv : Source.table optionFields v ({} : Options) <;> simp [Entries.read, fields, hv] <;> rfl

theorem ofToml_severityText (hs : Spells s (some v)) :
    ofToml (severityText s) =
      ((severity v).map fun severity => ({ logging := { severity } } : Config)).mapError
        fun f => .config ("Failed to parse config: " ++ f.reason) := by
  rw [ofToml, readToml, severityText, String.toList_ofList,
    parse?_single (by decide) (by decide) hs, Option.map_some]
  dsimp only
  rw [read_logging_alone, table_table, read_severity]
  cases severity v <;> rfl

theorem ofToml_unspelled (hs : Spells s none) : ofToml (severityText s) = .error unparsed := by
  rw [ofToml, readToml, severityText, String.toList_ofList,
    parse?_single (by decide) (by decide) hs]
  rfl

theorem readsAs_of_severity {w : List Char} (hw : Spells w (some v))
    (hv : severity v = r.mapError Fault.severity) : ReadsAs v w r where
  spells := hw
  alone s hs := by
    rw [ofToml_severityText hs, hv]
    cases r <;> rfl
  among before after o := hv ▸ read_among v before after o

private theorem readsAs_word (w : String) :
    ReadsAs (.string w) (quoted w.toList) ((Severity.ofText w).map some) :=
  readsAs_of_severity (spells_render (v := .text w) trivial) (severity_word w)

/-! Integers -/

theorem spells_signedNumeral (n : Int) :
    Spells (Text.signedNumeral n) ((fitting n).map .integer) := by
  rw [← scalar?_signedNumeral]
  exact spells_word (isWordChar_signedNumeral n) (signedNumeral_ne_nil n)

private theorem fitting_of_fits (hn : Fits n) : fitting n = some n := by
  obtain ⟨hlow, hhigh⟩ := hn
  refine if_pos ?_
  unfold integerBound
  omega

theorem readsAs_level (hn : Fits n) :
    ReadsAs (.integer n) (Text.signedNumeral n) (Severity.ofRaw (.ofInt n)) := by
  have hspells := spells_signedNumeral n
  rw [fitting_of_fits hn] at hspells
  exact readsAs_of_severity hspells (severity_level hn)

theorem ofToml_unfit (hn : ¬Fits n) (hs : Spells s (some (.integer n))) :
    ofToml (severityText s) = .error unparsed := by
  rw [ofToml_severityText hs, severity_unfit hn]
  rfl

/-- Also those of more than 64 bits, which no document can have. -/
theorem ofToml_signedNumeral (hn : ¬Fits n) :
    ofToml (severityText (Text.signedNumeral n)) = .error unparsed := by
  have hspells := spells_signedNumeral n
  by_cases hfit : -(integerBound : Int) ≤ n ∧ n < integerBound
  · rw [fitting, if_pos hfit] at hspells
    exact ofToml_unfit hn hspells
  · rw [fitting, if_neg hfit] at hspells
    exact ofToml_unspelled hspells

theorem read_unfit (hn : ¬Fits n) (before after : Entries) (o : Options) :
    ∃ fault, Entries.read optionFields (before ++ ("default_severity", .integer n) :: after) o =
      .error fault := by
  rw [read_among, severity_unfit hn]
  cases Entries.read optionFields before o with
  | error fault => exact ⟨fault, rfl⟩
  | ok o => exact ⟨.malformed, rfl⟩

end LogRouting.Config

namespace LogRouting.Relay

/-! The three readers -/

open Config (ReadsAs ofSeverity ofToml severityText unparsed)
open Severity (Fits Leveled)

def Numeric (s : String) (n : Int) : Prop :=
  ∃ core, Text.InBlanks core s.toList ∧ Text.Denotes core n

variable {s : String} {n : Int}

theorem numeric_iff : Numeric s n ↔ Text.integer? (Text.trim s.toList) = some n := by
  rw [Text.integer?_eq_some_iff]
  constructor
  · rintro ⟨core, hs, hcore⟩
    rwa [(Text.trim_eq_iff hcore.isBlank_eq_false).mpr hs]
  · exact fun h => ⟨_, Text.inBlanks_trim s.toList, h⟩

theorem Numeric.unique {m : Int} (h : Numeric s n) (h' : Numeric s m) : m = n := by
  rw [numeric_iff] at h h'
  exact Option.some.inj (h'.symm.trans h)

theorem parseLevel_of_fits (h : Numeric s n) (hn : Fits n) :
    parseLevel s = Severity.ofRaw (.ofInt n) := by
  rw [parseLevel, numeric_iff.mp h]
  exact if_pos hn

theorem parseLevel_of_unfit (h : ∀ n, Numeric s n → ¬Fits n) :
    parseLevel s = (Severity.ofText s).map some := by
  unfold parseLevel
  split
  · rename_i n hn
    exact if_neg (h n (numeric_iff.mpr hn))
  · rfl

theorem ofText_of_numeric (h : Numeric s n) : ∃ e, Severity.ofText s = .error e := by
  rw [numeric_iff, Text.integer?_eq_some_iff] at h
  obtain ⟨c, hc, hdigit⟩ := h.exists_digit
  cases hread : Severity.ofText s with
  | error e => exact ⟨e, rfl⟩
  | ok v =>
    -- the lower case of a word is of letters, and a digit stays what it is
    have hsmall := Severity.isSmall_of_mem_words (Severity.ofText_eq_ok.mp hread)
    rw [String.toList_ofList] at hsmall
    have hmem : c.toLower ∈ Text.lowercase (Text.trim s.toList) := by
      rw [← (Text.lowercase_eq_iff hsmall).mp rfl]
      exact List.mem_map_of_mem hc
    have hletter := Text.toNat_of_isSmall (hsmall _ hmem)
    rw [Text.toLower_of_isDigit hdigit] at hletter
    have hbounds := Text.toNat_of_isDigit hdigit
    omega

private theorem withLevel_eq (o : Options) (level : Int32) :
    o.withLevel level = (Severity.ofRaw level).map fun severity => { o with severity } := by
  rw [Options.withLevel]
  cases Severity.ofRaw level <;> rfl

private theorem parseLevel_error (h : ∀ n, Numeric s n → ¬Fits n) {e : LogError}
    (he : parseLevel s = .error e) :
    e = .unknownWord (String.ofList (Text.lowercase (Text.trim s.toList))) := by
  rw [parseLevel_of_unfit h] at he
  cases hread : Severity.ofText s with
  | ok v =>
    rw [hread] at he
    cases he
  | error cause =>
    rw [hread] at he
    cases he
    exact Severity.ofText_error hread

theorem parseLevel_of_numeric_unfit (hs : Numeric s n) (hn : ¬Fits n) :
    ∃ e, parseLevel s = .error e := by
  have hunfit : ∀ m, Numeric s m → ¬Fits m := fun m hm => hs.unique hm ▸ hn
  obtain ⟨e, he⟩ := ofText_of_numeric hs
  rw [parseLevel_of_unfit hunfit, he]
  exact ⟨e, rfl⟩

/-- A text that is a number of 32 bits is read as the raw level is, and as a configuration file
that sets the number. Any other text is read as a configuration file that sets the text. Numbers of
more bits are errors in either place. -/
theorem parseLevel_agrees (s : String) :
    (∀ n, Numeric s n → Fits n →
      Leveled n (parseLevel s) ∧
      (∀ o : Options, o.withLevel (.ofInt n) =
        (parseLevel s).map fun severity => { o with severity }) ∧
      ReadsAs (.integer n) (Text.signedNumeral n) (parseLevel s)) ∧
    ((∀ n, Numeric s n → ¬Fits n) →
      ReadsAs (.string s) (Toml.quoted s.toList) (parseLevel s) ∧
      ∀ e, parseLevel s = .error e →
        e = .unknownWord (String.ofList (Text.lowercase (Text.trim s.toList)))) ∧
    (∀ n, ¬Fits n →
      (Numeric s n → ∃ e, parseLevel s = .error e) ∧
      ofToml (severityText (Text.signedNumeral n)) = .error unparsed ∧
      (∀ w, Toml.Spells w (some (.integer n)) → ofToml (severityText w) = .error unparsed) ∧
      ∀ before after o, ∃ fault, Toml.Entries.read Config.optionFields
        (before ++ ("default_severity", .integer n) :: after) o = .error fault) := by
  refine ⟨fun n hs hn => ?_, fun h => ⟨?_, fun e => parseLevel_error h⟩, fun n hn => ?_⟩
  · rw [parseLevel_of_fits hs hn]
    exact ⟨Severity.leveled_ofRaw hn, fun o => withLevel_eq o _, Config.readsAs_level hn⟩
  · rw [parseLevel_of_unfit h]
    exact Config.readsAs_word s
  · exact ⟨fun hs => parseLevel_of_numeric_unfit hs hn, Config.ofToml_signedNumeral hn,
      fun w => Config.ofToml_unfit hn, Config.read_unfit hn⟩

/-- A sign, a leading zero and white space, beside the same number in hexadecimal; a word; and a
number of 33 bits. -/
theorem parseLevel_agrees_padded :
    ofToml (severityText "0x1E".toList) = ofSeverity (parseLevel " \t+030\u00a0") ∧
    parseLevel " \t+030\u00a0" = .ok (some .warn) ∧
    ofToml (severityText (Toml.quoted "\tWarning ".toList)) =
      ofSeverity (parseLevel "\tWarning ") ∧
    ofToml (severityText "2147483648".toList) = .error unparsed := by
  have hnumeric : Numeric " \t+030\u00a0" 30 := numeric_iff.mpr (by decide)
  obtain ⟨hleveled, -, hlevel⟩ := (parseLevel_agrees " \t+030\u00a0").1 30 hnumeric (by decide)
  have hspells : Toml.Spells "0x1E".toList (some (.integer 30)) := by
    have hscalar : Toml.scalar? "0x1E".toList = some (.integer 30) := rfl
    rw [← hscalar]
    exact Toml.spells_word (List.all_eq_true.mp (by decide)) (by decide)
  have hwords : ∀ n, Numeric "\tWarning " n → ¬Fits n := by
    intro n hn
    have hnone : Text.integer? (Text.trim "\tWarning ".toList) = none := by decide
    rw [numeric_iff, hnone] at hn
    cases hn
  have hword := ((parseLevel_agrees "\tWarning ").2.1 hwords).1
  exact ⟨hlevel.alone _ hspells, hleveled.wire .warn (by decide), hword.alone _ hword.spells,
    ((parseLevel_agrees "").2.2 2147483648 (by decide)).2.1⟩

end LogRouting.Relay
