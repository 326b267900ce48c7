import LogRouting.Proofs.Config.RoundTrip
import Mathlib.Data.List.Induction
import Mathlib.Data.List.Perm.Subperm
import Mathlib.Data.Option.Basic
/-!
A document may leave out any settings and have the others in any order: those it has are read, and
those it leaves out have their defaults. Main statement: `ofToml_excerpt`.
-/
namespace LogRouting

open Toml

def Options.select (chosen : String → Bool) (o base : Options) : Options where
  severity := if chosen "default_severity" then o.severity else base.severity
  console := if chosen "console_enabled" then o.console else base.console
  registry := if chosen "registry_enabled" then o.registry else base.registry
  external := if chosen "external_enabled" then o.external else base.external
  backendConfig := if chosen "external_config_path" then o.backendConfig else base.backendConfig

def RegistryConfig.select (chosen : String → Bool) (c base : RegistryConfig) :
    RegistryConfig where
  topic := if chosen "topic" then c.topic else base.topic
  initialCapacity := if chosen "initial_capacity" then c.initialCapacity else base.initialCapacity
  maxLoggers := if chosen "max_loggers" then c.maxLoggers else base.maxLoggers

def ConsoleConfig.select (chosen : String → Bool) (c base : ConsoleConfig) : ConsoleConfig where
  format := if chosen "format" then c.format else base.format

namespace Config

/-- The settings of `c` that are chosen by table and name, and defaults otherwise. -/
def select (chosen : String → String → Bool) (c : Config) : Config where
  logging := c.logging.select (chosen "logging") {}
  registry := c.registry.select (chosen "registry") {}
  console := c.console.select (chosen "console") {}

/-- Some of the tables of a configuration with some of their entries, in any order. -/
structure Excerpt (c : Config) (ts : List Table) : Prop where
  names_nodup : (ts.map Table.name).Nodup
  entries : ∀ t ∈ ts, ∃ t' ∈ c.tables, t.name = t'.name ∧ t.entries.Subperm t'.entries

def hasKey (es : List (String × Scalar)) (key : String) : Bool :=
  es.any (·.1 = key)

def chosen (ts : List Table) (name key : String) : Bool :=
  ts.any fun t => t.name = name && hasKey t.entries key

/-! Entries of one table -/

/-- Reading one entry sets one setting, whichever others are chosen besides. -/
def Sets {α : Type} (fields : List (Field Value α)) (select : (String → Bool) → α → α)
    (e : String × Scalar) : Prop :=
  ∀ a, ∃ a', Entries.read fields [entryValue e] a = .ok a' ∧
    ∀ chosen, select chosen a' = select (fun key => e.1 = key || chosen key) a

theorem read_selected {α : Type} {fields : List (Field Value α)}
    {select : (String → Bool) → α → α} (hnone : ∀ a, select (fun _ => false) a = a)
    {es : List (String × Scalar)} (hes : ∀ e ∈ es, Sets fields select e) (a : α) :
    Entries.read fields (es.map entryValue) a = .ok (select (hasKey es) a) := by
  induction es generalizing a with
  | nil => exact congrArg Except.ok (hnone a).symm
  | cons e es ih =>
    obtain ⟨a', hread, hselect⟩ := hes e List.mem_cons_self a
    have hrest := ih (fun e' he' => hes e' (List.mem_cons_of_mem e he')) a'
    rw [List.map_cons, ← List.singleton_append, read_append, hread]
    exact hrest.trans (congrArg Except.ok (hselect (hasKey es)))

private theorem sets_logging (o : Options) :
    ∀ e ∈ optionEntries o, Sets optionFields (Options.select · o) e := by
  intro e he a
  have hcases : (∃ s, o.severity = some s ∧ e = ("default_severity", .text s.word)) ∨
      e = ("console_enabled", .flag o.console) ∨ e = ("registry_enabled", .flag o.registry) ∨
      e = ("external_enabled", .flag o.external) ∨
      (∃ p, o.backendConfig = some p ∧ e = ("external_config_path", .text p)) := by
    simpa [optionEntries, eq_comm] using he
  rcases hcases with ⟨s, hs, rfl⟩ | rfl | rfl | rfl | ⟨p, hp, rfl⟩
  · exact ⟨{ a with severity := some s },
      by simp [Entries.read, entryValue, Scalar.value, optionFields],
      fun chosen => by simp [Options.select, hs]⟩
  · exact ⟨{ a with console := o.console },
      by simp [Entries.read, entryValue, Scalar.value, optionFields],
      fun chosen => by simp [Options.select]⟩
  · exact ⟨{ a with registry := o.registry },
      by simp [Entries.read, entryValue, Scalar.value, optionFields],
      fun chosen => by simp [Options.select]⟩
  · exact ⟨{ a with external := o.external },
      by simp [Entries.read, entryValue, Scalar.value, optionFields],
      fun chosen => by simp [Options.select]⟩
  · refine ⟨{ a with backendConfig := some p }, ?_, fun chosen => by simp [Options.select, hp]⟩
    simp [Entries.read, entryValue, Scalar.value, optionFields]
    rfl

private theorem sets_registry (c : RegistryConfig) :
    ∀ e ∈ registryEntries c, Sets registryFields (RegistryConfig.select · c) e := by
  intro e he a
  have hcases : e = ("topic", .text c.topic) ∨
      e = ("initial_capacity", .natural c.initialCapacity.toNat) ∨
      (∃ n, c.maxLoggers = some n ∧ e = ("max_loggers", .natural n.toNat)) := by
    simpa [registryEntries, eq_comm] using he
  rcases hcases with rfl | rfl | ⟨n, hn, rfl⟩
  · exact ⟨{ a with topic := c.topic },
      by simp [Entries.read, entryValue, Scalar.value, registryFields],
      fun chosen => by simp [RegistryConfig.select]⟩
  · exact ⟨{ a with initialCapacity := c.initialCapacity },
      by simp [Entries.read, entryValue, Scalar.value, registryFields],
      fun chosen => by simp [RegistryConfig.select]⟩
  · refine ⟨{ a with maxLoggers := some n }, ?_,
      fun chosen => by simp [RegistryConfig.select, hn]⟩
    simp [Entries.read, entryValue, Scalar.value, registryFields]
    rfl

private theorem sets_console (c : ConsoleConfig) :
    ∀ e ∈ consoleEntries c, Sets consoleFields (ConsoleConfig.select · c) e := by
  intro e he a
  obtain rfl : e = ("format", .text c.format) := List.mem_singleton.mp he
  exact ⟨{ a with format := c.format },
    by simp [Entries.read, entryValue, Scalar.value, consoleFields],
    fun chosen => by simp [ConsoleConfig.select]⟩

/-! Tables of a document -/

private theorem chosen_concat_self {ts : List Table} {t : Table} (h : t.name ∉ ts.map Table.name) :
    chosen (ts ++ [t]) t.name = hasKey t.entries := by
  funext key
  have hnone : ∀ t' ∈ ts, t'.name ≠ t.name := fun t' ht' heq =>
    h (heq ▸ List.mem_map_of_mem ht')
  have hts : (ts.any fun t' => t'.name = t.name && hasKey t'.entries key) = false := by
    simpa using fun t' ht' heq => absurd heq (hnone t' ht')
  simp [chosen, hts]

private theorem chosen_concat_of_ne {ts : List Table} {t : Table} {name : String}
    (h : t.name ≠ name) :
    chosen (ts ++ [t]) name = chosen ts name := by
  funext key
  simp [chosen, h]

private theorem Excerpt.of_concat {c : Config} {ts : List Table} {t : Table}
    (h : c.Excerpt (ts ++ [t])) : c.Excerpt ts ∧ t.name ∉ ts.map Table.name := by
  have hnames := h.names_nodup
  rw [List.map_append, List.nodup_append] at hnames
  obtain ⟨hts, -, hne⟩ := hnames
  exact ⟨⟨hts, fun t' ht' => h.entries t' (List.mem_append_left _ ht')⟩,
    fun ht => hne t.name ht t.name (List.mem_singleton.mpr rfl) rfl⟩

private theorem table_cases {c : Config} {t t' : Table} (ht' : t' ∈ c.tables)
    (hname : t.name = t'.name)
    (hentries : t.entries ⊆ t'.entries) :
    (t.name = "logging" ∧ t.entries ⊆ optionEntries c.logging) ∨
      (t.name = "registry" ∧ t.entries ⊆ registryEntries c.registry) ∨
      (t.name = "console" ∧ t.entries ⊆ consoleEntries c.console) := by
  simp only [tables, List.mem_cons, List.not_mem_nil, or_false] at ht'
  rcases ht' with rfl | rfl | rfl
  · exact .inl ⟨hname, hentries⟩
  · exact .inr (.inl ⟨hname, hentries⟩)
  · exact .inr (.inr ⟨hname, hentries⟩)

theorem read_section {α : Type} (put : α → Config → Config) {own : List (Field Value α)}
    {a a' : α} {c : Config} {t : Table}
    (hfield : fields.find? (·.name = t.name) =
      some ⟨t.name, fun v c => do return put (← Source.table own v a) c⟩)
    (hread : Entries.read own (t.entries.map entryValue) a = .ok a') :
    Entries.read fields [t.value] c = .ok (put a' c) := by
  simp only [Entries.read, Table.value, List.foldlM_cons, List.foldlM_nil, hfield, table_table]
    at hread ⊢
  rw [hread]
  rfl

theorem read_table {c : Config} {ts : List Table} {t t' : Table}
    (hnew : t.name ∉ ts.map Table.name) (ht' : t' ∈ c.tables) (hname : t.name = t'.name)
    (hentries : t.entries ⊆ t'.entries) :
    Entries.read fields [t.value] (c.select (chosen ts)) =
      .ok (c.select (chosen (ts ++ [t]))) := by
  have hself := chosen_concat_self hnew
  have hother : ∀ name, t.name ≠ name → chosen (ts ++ [t]) name = chosen ts name :=
    fun name hne => chosen_concat_of_ne hne
  rcases table_cases ht' hname hentries with ⟨hname, hes⟩ | ⟨hname, hes⟩ | ⟨hname, hes⟩ <;>
    rw [hname] at hself hother
  · have hread := read_selected (a := {}) (fun _ => rfl)
      fun e he => sets_logging c.logging e (hes he)
    rw [read_section (fun o c => { c with logging := o }) (by rw [hname]; rfl) hread]
    simp [select, hself, hother "registry", hother "console"]
  · have hread := read_selected (a := {}) (fun _ => rfl)
      fun e he => sets_registry c.registry e (hes he)
    rw [read_section (fun r c => { c with registry := r }) (by rw [hname]; rfl) hread]
    simp [select, hself, hother "logging", hother "console"]
  · have hread := read_selected (a := {}) (fun _ => rfl)
      fun e he => sets_console c.console e (hes he)
    rw [read_section (fun s c => { c with console := s }) (by rw [hname]; rfl) hread]
    simp [select, hself, hother "logging", hother "registry"]

theorem read_excerpt {c : Config} {ts : List Table} (h : c.Excerpt ts) :
    Entries.read fields (ts.map Table.value) {} = .ok (c.select (chosen ts)) := by
  induction ts using List.reverseRecOn with
  | nil => rfl
  | append_singleton ts t ih =>
    obtain ⟨hts, hnew⟩ := h.of_concat
    obtain ⟨t', ht', hname, hentries⟩ := h.entries t (by simp)
    rw [List.map_append, read_append, ih hts]
    exact read_table hnew ht' hname hentries.subset

/-! The text of a document -/

private theorem plain_of_subperm {t t' : Table} (h : t'.Plain) (hname : t.name = t'.name)
    (hentries : t.entries.Subperm t'.entries) : t.Plain where
  name_bare := hname ▸ h.name_bare
  keys_bare e he := h.keys_bare e (hentries.subset he)
  keys_nodup := by
    obtain ⟨es, hperm, hsub⟩ := hentries
    exact (hperm.map Prod.fst).nodup_iff.mp (h.keys_nodup.sublist (hsub.map Prod.fst))
  readable e he := h.readable e (hentries.subset he)

private theorem plain_excerpt {c : Config} {ts : List Table} (hc : c.hasToml = true)
    (h : c.Excerpt ts) : ∀ t ∈ ts, t.Plain := by
  intro t ht
  obtain ⟨t', ht', hname, hentries⟩ := h.entries t ht
  exact plain_of_subperm (tables_plain hc t' ht') hname hentries

/-- Any settings of a configuration whose counts fit in signed integers of 64 bits, in any order
and with any blank lines between the tables, read back as they were, and all others as their
defaults. -/
theorem ofToml_excerpt {c : Config} {ts : List Table}
    (hcapacity : c.registry.initialCapacity.toNat ≤ 2 ^ 63 - 1)
    (hmax : ∀ n, c.registry.maxLoggers = some n → n.toNat ≤ 2 ^ 63 - 1) (h : c.Excerpt ts) :
    (∀ s, LaidOut ts s → ofToml (String.ofList s) = .ok (c.select (chosen ts))) ∧
      ofToml (String.ofList (render ts)) = .ok (c.select (chosen ts)) := by
  have hc : c.hasToml = true := by
    refine hasToml_iff.mpr ⟨?_, fun n hn => ?_⟩
    · unfold integerBound
      omega
    · have := hmax n hn
      unfold integerBound
      omega
  have hread : ∀ s, LaidOut ts s → ofToml (String.ofList s) = .ok (c.select (chosen ts)) := by
    intro s hs
    rw [ofToml, readToml, String.toList_ofList,
      parse?_laidOut (plain_excerpt hc h) h.names_nodup hs]
    dsimp only
    rw [read_excerpt h]
    rfl
  have hrender := laidOut_render ts .nil
  rw [List.append_nil] at hrender
  exact ⟨hread, hread _ hrender⟩

/-- Four settings of nine, one of them on two lines, under two headers of three and out of order;
the third table is empty. -/
theorem ofToml_excerpt_shuffled :
    let c : Config := {
      logging := { severity := some .warn, console := false, backendConfig := some "a\nb" }
      registry := { topic := "it's", initialCapacity := 5, maxLoggers := some 9 }
      console := { format := "json" } }
    let ts : List Table := [
      ⟨"registry", [("max_loggers", .natural 9), ("topic", .text "it's")]⟩,
      ⟨"console", []⟩,
      ⟨"logging", [("external_config_path", .text "a\nb"), ("default_severity", .text "warn")]⟩]
    c.registry.initialCapacity.toNat ≤ 2 ^ 63 - 1 ∧
      (∀ n, c.registry.maxLoggers = some n → n.toNat ≤ 2 ^ 63 - 1) ∧ c.Excerpt ts ∧
      ofToml (String.ofList (render ts)) = .ok {
        logging := { severity := some .warn, backendConfig := some "a\nb" }
        registry := { topic := "it's", maxLoggers := some 9 } } := by
  intro c ts
  have hcapacity : c.registry.initialCapacity.toNat ≤ 2 ^ 63 - 1 := by decide
  have hmax : ∀ n, c.registry.maxLoggers = some n → n.toNat ≤ 2 ^ 63 - 1 := by
    rintro n ⟨⟩
    decide
  have hexcerpt : c.Excerpt ts := by
    refine ⟨by decide, fun t ht => ?_⟩
    simp only [ts, List.mem_cons, List.not_mem_nil, or_false] at ht
    rcases ht with rfl | rfl | rfl
    · exact ⟨⟨"registry", registryEntries c.registry⟩, by simp [tables], rfl, by decide⟩
    · exact ⟨⟨"console", consoleEntries c.console⟩, by simp [tables], rfl, by decide⟩
    · exact ⟨⟨"logging", optionEntries c.logging⟩, by simp [tables], rfl, by decide⟩
  exact ⟨hcapacity, hmax, hexcerpt, (ofToml_excerpt hcapacity hmax hexcerpt).2⟩

end Config

end LogRouting
