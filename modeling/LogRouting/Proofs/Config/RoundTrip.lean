import LogRouting.Config
import LogRouting.Proofs.Toml.Range
import Mathlib.Algebra.Group.Nat.Defs
/-!
A configuration that is written as TOML reads back as it was, and whatever could be read can be
written.
-/
namespace LogRouting

open Toml

namespace Config

def RegistryInRange (c : RegistryConfig) : Prop :=
  c.initialCapacity.toNat < integerBound ∧ ∀ n, c.maxLoggers = some n → n.toNat < integerBound

theorem hasToml_iff {c : Config} : c.hasToml = true ↔ RegistryInRange c.registry := by
  simp [hasToml, RegistryInRange, Option.all_eq_true]

/-! Writing and reading back -/

theorem plain_of_sublist {α : Type} {name : String} {entries : List (String × Scalar)}
    (fields : List (Field Value α)) (hname : Bare name) (hbare : ∀ f ∈ fields, Bare f.name)
    (hnodup : (fields.map Field.name).Nodup)
    (hkeys : (entries.map Prod.fst).Sublist (fields.map Field.name))
    (hvalues : ∀ e ∈ entries, e.2.Readable) : Table.Plain ⟨name, entries⟩ where
  name_bare := hname
  keys_bare e he := by
    obtain ⟨f, hf, hkey⟩ := List.mem_map.mp (hkeys.subset (List.mem_map_of_mem he))
    exact hkey ▸ hbare f hf
  keys_nodup := hnodup.sublist hkeys
  readable := hvalues

private theorem logging_plain (o : Options) : Table.Plain ⟨"logging", optionEntries o⟩ := by
  apply plain_of_sublist optionFields (by decide)
  · decide
  · decide
  · rcases o with ⟨_ | _, _, _, _, _ | _⟩ <;> simp [optionEntries, optionFields]
  · rcases o with ⟨_ | _, _, _, _, _ | _⟩ <;> simp [optionEntries, Scalar.Readable]

private theorem registry_plain {c : RegistryConfig} (h : RegistryInRange c) :
    Table.Plain ⟨"registry", registryEntries c⟩ := by
  apply plain_of_sublist registryFields (by decide)
  · decide
  · decide
  · rcases c with ⟨_, _, _ | _⟩ <;> simp [registryEntries, registryFields]
  · obtain ⟨hcapacity, hmax⟩ := h
    rcases c with ⟨_, _, _ | n⟩
    · simpa [registryEntries, Scalar.Readable] using hcapacity
    · simpa [registryEntries, Scalar.Readable] using ⟨hcapacity, hmax n rfl⟩

private theorem console_plain (c : ConsoleConfig) : Table.Plain ⟨"console", consoleEntries c⟩ := by
  apply plain_of_sublist consoleFields (by decide)
  · decide
  · decide
  · simp [consoleEntries, consoleFields]
  · simp [consoleEntries, Scalar.Readable]

theorem tables_plain {c : Config} (h : c.hasToml = true) : ∀ t ∈ c.tables, t.Plain := by
  intro t ht
  simp only [tables, List.mem_cons, List.not_mem_nil, or_false] at ht
  rcases ht with rfl | rfl | rfl
  · exact logging_plain c.logging
  · exact registry_plain (hasToml_iff.mp h)
  · exact console_plain c.console

@[simp] theorem ofText_word (s : Severity) : Severity.ofText s.word = .ok s := by
  cases s <;> rfl

theorem severity_word (w : String) :
    severity (Value.string w) = ((Severity.ofText w).map some).mapError Fault.severity := rfl

@[simp] theorem severity_string (s : Severity) :
    severity (Value.string s.word) = .ok (some s) := by
  rw [severity_word, ofText_word]
  rfl

@[simp] theorem text_string (s : String) : Source.text (Value.string s) = .ok s := rfl

@[simp] theorem flag_boolean (b : Bool) : Source.flag (Value.boolean b) = .ok b := rfl

@[simp] theorem count_integer (n : UInt64) : Source.count (Value.integer n.toNat) = .ok n := by
  have hcount : (Source.count (Value.integer n.toNat) : Except Fault UInt64) =
      if 0 ≤ (n.toNat : Int) then .ok (UInt64.ofNat n.toNat) else .error .malformed := rfl
  rw [hcount, if_pos (Int.natCast_nonneg _), UInt64.ofNat_toNat]

@[simp] theorem optional_present {α : Type} (read : Value → Except Fault α) (v : Value) :
    optional read v = (read v).map some := rfl

@[simp] theorem table_table {α : Type} (fields : List (Field Value α)) (origin : Origin)
    (es : Entries) (a : α) :
    Source.table fields (Value.table origin es) a = Entries.read fields es a := rfl

@[simp] theorem read_append {α : Type} (fields : List (Field Value α)) (es es' : Entries) (a : α) :
    Entries.read fields (es ++ es') a =
      (Entries.read fields es a).bind fun a => Entries.read fields es' a :=
  List.foldlM_append

@[simp] private theorem read_logging (o : Options) :
    Entries.read optionFields ((optionEntries o).map entryValue) {} = .ok o := by
  obtain ⟨severity, console, registry, external, path⟩ := o
  cases severity <;> cases path <;>
    simp [optionEntries, Entries.read, entryValue, Scalar.value, optionFields] <;>
    rfl

@[simp] private theorem read_registry (c : RegistryConfig) :
    Entries.read registryFields ((registryEntries c).map entryValue) {} = .ok c := by
  obtain ⟨topic, capacity, max⟩ := c
  cases max <;>
    simp [registryEntries, Entries.read, entryValue, Scalar.value, registryFields] <;>
    rfl

@[simp] private theorem read_console (c : ConsoleConfig) :
    Entries.read consoleFields ((consoleEntries c).map entryValue) {} = .ok c := by
  simp [consoleEntries, Entries.read, entryValue, Scalar.value, consoleFields]

theorem read_tables (c : Config) : Entries.read fields (c.tables.map Table.value) {} = .ok c := by
  rw [Entries.read]
  simp [tables, Table.value, fields]
  rfl

theorem ofToml_render {c : Config} (h : c.hasToml = true) :
    ofToml (String.ofList (render c.tables)) = .ok c ∧
      ofToml (String.ofList (render c.tables) ++ "\n") = .ok c := by
  have hnames : (c.tables.map Table.name).Nodup := by simp [tables]
  obtain ⟨hparse, hparse'⟩ := parse?_render (tables_plain h) hnames
  have hread : ∀ s, parse? s = some (c.tables.map Table.value) →
      ofToml (String.ofList s) = .ok c := by
    intro s hs
    rw [ofToml, readToml, String.toList_ofList, hs]
    dsimp only
    rw [read_tables]
    rfl
  have hline : String.ofList (render c.tables) ++ "\n" =
      String.ofList (render c.tables ++ ['\n']) :=
    String.ofList_append.symm
  exact ⟨hread _ hparse, hline ▸ hread _ hparse'⟩

/-! Reading and writing back -/

theorem exists_of_bind {α β : Type} {x : Except Fault α} {f : α → Except Fault β} {b : β}
    (h : x >>= f = .ok b) : ∃ a, x = .ok a ∧ f a = .ok b := by
  cases x with
  | error fault => cases h
  | ok a => exact ⟨a, rfl, h⟩

theorem foldlM_keeps {α β : Type} {P : α → Prop} {step : α → β → Except Fault α} {l : List β}
    (hstep : ∀ x ∈ l, ∀ a a', P a → step a x = .ok a' → P a') {a a' : α} (ha : P a)
    (h : l.foldlM step a = .ok a') : P a' := by
  induction l generalizing a with
  | nil =>
    cases h
    exact ha
  | cons x l ih =>
    rw [List.foldlM_cons] at h
    obtain ⟨b, hb, hrest⟩ := exists_of_bind h
    exact ih (fun y hy => hstep y (List.mem_cons_of_mem x hy))
      (hstep x List.mem_cons_self a b ha hb) hrest

def FieldsKeep {α : Type} (P : α → Prop) (fields : List (Field Value α)) : Prop :=
  ∀ f ∈ fields, ∀ v a a', v.InRange → P a → f.read v a = .ok a' → P a'

theorem read_keeps {α : Type} {P : α → Prop} {fields : List (Field Value α)}
    (hfields : FieldsKeep P fields) {es : Entries} {a a' : α} (hes : es.InRange) (ha : P a)
    (h : Entries.read fields es a = .ok a') : P a' := by
  refine foldlM_keeps (fun e he b b' hb hread => ?_) ha h
  split at hread
  · rename_i f hf
    exact hfields f (List.mem_of_find?_eq_some hf) e.2 b b' (hes e he) hb hread
  · cases hread
    exact hb

theorem readTable_keeps {α : Type} {P : α → Prop} {fields : List (Field Value α)}
    (hfields : FieldsKeep P fields) {v : Value} {a a' : α} (hv : v.InRange) (ha : P a)
    (h : Source.table fields v a = .ok a') : P a' := by
  have hread : Value.readTable fields v a = .ok a' := h
  cases hv with
  | table origin hes => exact read_keeps hfields hes ha hread
  | array hitems =>
    refine foldlM_keeps (fun p hp b b' hb hstep => ?_) ha hread
    obtain ⟨hf, hv⟩ := List.of_mem_zip hp
    exact hfields p.1 hf p.2 b b' (hitems p.2 hv) hb hstep
  | tables helements =>
    refine foldlM_keeps (fun p hp b b' hb hstep => ?_) ha hread
    obtain ⟨hf, hes⟩ := List.of_mem_zip hp
    exact hfields p.1 hf _ b b' (.table .header (helements p.2 hes)) hb hstep
  | datetime =>
    cases hread
    exact ha
  | _ => cases hread

theorem count_lt {v : Value} {n : UInt64} (hv : v.InRange) (h : Source.count v = .ok n) :
    n.toNat < integerBound := by
  have hcount : Value.count v = .ok n := h
  cases hv with
  | integer hm =>
    rename_i m
    rw [Value.count] at hcount
    split at hcount
    · cases hcount
      have hlt : m.toNat < integerBound := by omega
      have hsize : integerBound < 2 ^ 64 := by decide
      rw [UInt64.toNat_ofNat_of_lt' (Nat.lt_trans hlt hsize)]
      exact hlt
    · cases hcount
  | _ => cases hcount

private theorem registryFields_keep : FieldsKeep RegistryInRange registryFields := by
  intro f hf v c c' hv hc h
  simp only [registryFields, List.mem_cons, List.not_mem_nil, or_false] at hf
  rcases hf with rfl | rfl | rfl
  · obtain ⟨topic, -, hset⟩ := exists_of_bind h
    cases hset
    exact hc
  · obtain ⟨n, hn, hset⟩ := exists_of_bind h
    cases hset
    exact ⟨count_lt hv hn, hc.2⟩
  · obtain ⟨max, hmax, hset⟩ := exists_of_bind h
    cases hset
    refine ⟨hc.1, fun n hn => ?_⟩
    rw [optional_present] at hmax
    obtain ⟨m, hm, hsome⟩ := exists_of_bind hmax
    cases hsome.trans (congrArg Except.ok hn)
    exact count_lt hv hm

private theorem fields_keep : FieldsKeep (fun c => RegistryInRange c.registry) fields := by
  intro f hf v c c' hv hc h
  simp only [fields, List.mem_cons, List.not_mem_nil, or_false] at hf
  rcases hf with rfl | rfl | rfl
  · obtain ⟨logging, -, hset⟩ := exists_of_bind h
    cases hset
    exact hc
  · obtain ⟨registry, hregistry, hset⟩ := exists_of_bind h
    cases hset
    have hdefault : RegistryInRange {} := ⟨by decide, fun n hn => by cases hn⟩
    exact readTable_keeps registryFields_keep hv hdefault hregistry
  · obtain ⟨console, -, hset⟩ := exists_of_bind h
    cases hset
    exact hc

theorem hasToml_of_ofToml {s : String} {c : Config} (h : ofToml s = .ok c) : c.hasToml = true := by
  rw [ofToml, readToml] at h
  cases hparse : parse? s.toList with
  | none =>
    rw [hparse] at h
    cases h
  | some es =>
    rw [hparse] at h
    dsimp only at h
    cases hread : Entries.read fields es {} with
    | error fault =>
      rw [hread] at h
      cases h
    | ok c' =>
      rw [hread] at h
      cases h
      have hdefault : RegistryInRange ({} : Config).registry :=
        ⟨by decide, fun n hn => by cases hn⟩
      exact hasToml_iff.mpr (read_keeps fields_keep (inRange_of_parse? hparse) hdefault hread)

/-- A configuration is written if and only if its counts fit in signed integers of 64 bits. What
is written reads back as it was, with another line end behind it or without. So does every
configuration that some text gave. -/
theorem toml_round_trip :
    (∀ c : Config, (∃ t, c.toToml = .ok t) ↔
      c.registry.initialCapacity.toNat ≤ 2 ^ 63 - 1 ∧
        ∀ n, c.registry.maxLoggers = some n → n.toNat ≤ 2 ^ 63 - 1) ∧
    (∀ (c : Config) (t : String), c.toToml = .ok t →
      ofToml t = .ok c ∧ ofToml (t ++ "\n") = .ok c) ∧
    (∀ (s : String) (c : Config), ofToml s = .ok c →
      ∃ t, c.toToml = .ok t ∧ ofToml t = .ok c) := by
  have hwritten : ∀ c : Config, c.hasToml = true →
      c.toToml = .ok (String.ofList (render c.tables)) := fun c hc => if_pos hc
  have hrefused : ∀ (c : Config) (t : String), c.toToml = .ok t →
      c.hasToml = true ∧ t = String.ofList (render c.tables) := by
    intro c t ht
    by_cases hc : c.hasToml
    · rw [hwritten c hc] at ht
      exact ⟨hc, (Except.ok.inj ht).symm⟩
    · rw [toToml, if_neg hc] at ht
      cases ht
  refine ⟨fun c => ?_, fun c t ht => ?_, fun s c hs => ?_⟩
  · have hrange : c.hasToml = true ↔ c.registry.initialCapacity.toNat ≤ 2 ^ 63 - 1 ∧
        ∀ n, c.registry.maxLoggers = some n → n.toNat ≤ 2 ^ 63 - 1 := by
      have hbound : ∀ n, n < integerBound ↔ n ≤ 2 ^ 63 - 1 := by
        intro n
        unfold integerBound
        omega
      simp only [hasToml_iff, RegistryInRange, hbound]
    rw [← hrange]
    exact ⟨fun ⟨t, ht⟩ => (hrefused c t ht).1, fun hc => ⟨_, hwritten c hc⟩⟩
  · obtain ⟨hc, rfl⟩ := hrefused c t ht
    exact ofToml_render hc
  · have hc := hasToml_of_ofToml hs
    exact ⟨_, hwritten c hc, (ofToml_render hc).1⟩

end Config

end LogRouting
