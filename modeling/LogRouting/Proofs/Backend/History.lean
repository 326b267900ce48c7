import LogRouting.Backend
import LogRouting.Proofs.Files
import Mathlib.Data.List.Induction
/-!
What a tracing backend lets through depends on the calls made to it: on the document that it was
last started with and on the levels that were set since. Main statement: `passes_iff_threshold`.
-/
namespace LogRouting

namespace LevelFilter

def commonLevel (es : Toml.Entries) : Option Severity :=
  (es.lookup "level").bind severity?

def ownLevel (es : Toml.Entries) (logger : String) : Option Severity :=
  match es.lookup "loggers" with
  | some (.table _ levels) => (levels.lookup logger).bind severity?
  | _ => none

/-- A document that a filter can be read from: whatever it has for a level is one. -/
structure Readable (es : Toml.Entries) : Prop where
  common : ∀ v, es.lookup "level" = some v → (severity? v).isSome
  own : ∀ v, es.lookup "loggers" = some v →
    ∃ origin levels, v = .table origin levels ∧ ∀ e ∈ levels, (severity? e.2).isSome

@[simp] private theorem lookup_setLevel (name logger : String) (level : Severity)
    (f : LevelFilter) :
    (f.setLevel (some name) level).loggers.lookup logger =
      if logger = name then some level else f.loggers.lookup logger := by
  rw [setLevel, List.lookup_cons]
  by_cases hname : logger = name
  · simp [hname]
  · rw [beq_false_of_ne hname, if_neg hname]
    exact Files.lookup_filter_ne hname

private theorem mapM_levels {levels : Toml.Entries} (h : ∀ e ∈ levels, (severity? e.2).isSome) :
    ∃ ls, levels.mapM (fun (name, v) => (severity? v).map (name, ·)) = some ls ∧
      ∀ logger, ls.lookup logger = (levels.lookup logger).bind severity? := by
  induction levels with
  | nil => exact ⟨[], rfl, fun _ => rfl⟩
  | cons e levels ih =>
    obtain ⟨ls, hls, hlookup⟩ := ih fun e' he' => h e' (List.mem_cons_of_mem e he')
    obtain ⟨s, hs⟩ := Option.isSome_iff_exists.mp (h e List.mem_cons_self)
    refine ⟨(e.1, s) :: ls, by simp [hs, hls], fun logger => ?_⟩
    rw [List.lookup_cons, List.lookup_cons]
    cases logger == e.1 with
    | true => exact hs.symm
    | false => exact hlookup logger

private theorem severities_of_mapM {levels : Toml.Entries} {ls : List (String × Severity)}
    (h : levels.mapM (fun (name, v) => (severity? v).map (name, ·)) = some ls) :
    ∀ e ∈ levels, (severity? e.2).isSome := by
  induction levels generalizing ls with
  | nil => exact fun e he => absurd he List.not_mem_nil
  | cons e levels ih =>
    rw [List.mapM_cons] at h
    obtain ⟨l, hl, h⟩ := Option.bind_eq_some_iff.mp h
    obtain ⟨ls', hls', -⟩ := Option.bind_eq_some_iff.mp h
    obtain ⟨s, hs, -⟩ := Option.map_eq_some_iff.mp hl
    intro e' he'
    rcases List.mem_cons.mp he' with rfl | he'
    · exact Option.isSome_of_mem hs
    · exact ih hls' e' he'

theorem ofToml?_eq (text : String) :
    ofToml? text = (Toml.parse? text.toList).bind fun es =>
      ((es.lookup "level").elim (some .unset) severity?).bind fun level =>
        ((es.lookup "loggers").elim (some []) loggers?).map fun loggers =>
          { running := true, level, loggers } := by
  rw [ofToml?]
  congr 1
  funext es
  cases es.lookup "level" with
  | none => cases es.lookup "loggers" with
    | none => rfl
    | some v => cases h : loggers? v <;> simp [h]
  | some v => cases h : severity? v <;> cases es.lookup "loggers" with
    | none => simp [h]
    | some v' => cases h' : loggers? v' <;> simp [h, h']

theorem ofToml?_of_readable {text : String} {es : Toml.Entries}
    (hparse : Toml.parse? text.toList = some es) (h : Readable es) :
    ∃ f, ofToml? text = some f ∧ f.running ∧ f.level = (commonLevel es).getD .unset ∧
      ∀ logger, f.loggers.lookup logger = ownLevel es logger := by
  have hcommon : (es.lookup "level").elim (some .unset) severity? =
      some ((commonLevel es).getD .unset) := by
    unfold commonLevel
    cases hlevel : es.lookup "level" with
    | none => rfl
    | some v =>
      obtain ⟨s, hs⟩ := Option.isSome_iff_exists.mp (h.common v hlevel)
      simp [hs]
  have hown : ∃ ls, (es.lookup "loggers").elim (some []) loggers? = some ls ∧
      ∀ logger, ls.lookup logger = ownLevel es logger := by
    unfold ownLevel
    cases hloggers : es.lookup "loggers" with
    | none => exact ⟨[], rfl, fun _ => rfl⟩
    | some v =>
      obtain ⟨origin, levels, rfl, hlevels⟩ := h.own v hloggers
      exact mapM_levels hlevels
  obtain ⟨ls, hls, hlookup⟩ := hown
  refine ⟨⟨true, (commonLevel es).getD .unset, ls⟩, ?_, rfl, rfl, hlookup⟩
  rw [ofToml?_eq, hparse, Option.bind_some, hcommon, Option.bind_some, hls]
  rfl

theorem readable_of_ofToml? {text : String} {f : LevelFilter} (h : ofToml? text = some f) :
    ∃ es, Toml.parse? text.toList = some es ∧ Readable es := by
  rw [ofToml?_eq] at h
  obtain ⟨es, hparse, h⟩ := Option.bind_eq_some_iff.mp h
  obtain ⟨level, hlevel, h⟩ := Option.bind_eq_some_iff.mp h
  obtain ⟨ls, hls, -⟩ := Option.map_eq_some_iff.mp h
  refine ⟨es, hparse, fun v hv => ?_, fun v hv => ?_⟩
  · rw [hv] at hlevel
    exact Option.isSome_of_mem hlevel
  · rw [hv] at hls
    cases v with
    | table origin levels => exact ⟨origin, levels, rfl, severities_of_mapM hls⟩
    | _ => cases hls

end LevelFilter

namespace Tracing

open LevelFilter

inductive Call where
  | start (files : Files) (path : Option String)
  | setLevel (logger : Option String) (level : Severity)
  | forward (severity : Severity) (logger message : String)
  | shutdown

def call (t : Tracing) : Call → Except BackendError Unit × Tracing
  | .start files path => Backend.start path { t with files }
  | .setLevel logger level => Backend.setLevel logger level t
  | .forward s logger message => (.ok (), (Backend.forward s logger message t).2)
  | .shutdown => Backend.shutdown t

/-- The document that a start with these files goes by, if it succeeds: an empty one if it names
no file. -/
def Opens (files : Files) : Option String → Toml.Entries → Prop
  | none, es => es = []
  | some path, es =>
    ∃ text, files.read? path = some text ∧ Toml.parse? text.toList = some es ∧ Readable es

def Call.switches : Call → Prop
  | .start files path => ∃ es, Opens files path es
  | .shutdown => True
  | _ => False

/-- The last call that `switches` the backend on or off is a start with these entries, and `since`
is what came after it. -/
def Runs (calls : List Call) (es : Toml.Entries) (since : List Call) : Prop :=
  ∃ before files path, calls = before ++ .start files path :: since ∧ Opens files path es ∧
    ∀ c ∈ since, ¬c.switches

def Call.levelFor (logger : Option String) : Call → Option Severity
  | .setLevel logger' level => if logger' = logger then some level else none
  | _ => none

def latest (logger : Option String) (calls : List Call) : Option Severity :=
  (calls.filterMap (Call.levelFor logger)).getLast?

def threshold (es : Toml.Entries) (since : List Call) (logger : String) : Severity :=
  ((latest (some logger) since).or <| (ownLevel es logger).or <|
    (latest none since).or (commonLevel es)).getD .unset

/-- A filter that goes by a document and by the calls since it was read. -/
structure Follows (es : Toml.Entries) (since : List Call) (f : LevelFilter) : Prop where
  running : f.running
  common : f.level = ((latest none since).or (commonLevel es)).getD .unset
  own : ∀ logger, f.loggers.lookup logger = (latest (some logger) since).or (ownLevel es logger)

@[simp] theorem latest_snoc (logger : Option String) (calls : List Call) (c : Call) :
    latest logger (calls ++ [c]) = (c.levelFor logger).or (latest logger calls) := by
  unfold latest
  cases h : c.levelFor logger <;> simp [List.filterMap_append, h]

theorem Follows.passes_iff {es : Toml.Entries} {since : List Call} {f : LevelFilter}
    (h : Follows es since f) (logger : String) (s : Severity) :
    f.passes logger s ↔ threshold es since logger ≤ s := by
  have hlevel : f.levelOf logger = threshold es since logger := by
    rw [levelOf, h.own, h.common, threshold]
    cases latest (some logger) since <;> cases ownLevel es logger <;> rfl
  simp [passes, h.running, hlevel]

/-! One call -/

private theorem load_of_opens {path : String} {files : Files} {es : Toml.Entries}
    (h : Opens files (some path) es) : ∃ f, load path files = .ok f ∧ Follows es [] f := by
  obtain ⟨text, hread, hparse, hreadable⟩ := h
  obtain ⟨f, hf, hrunning, hcommon, hown⟩ := ofToml?_of_readable hparse hreadable
  exact ⟨f, by simp [load, hread, hf], hrunning, hcommon, hown⟩

private theorem load_of_not_opens {path : String} {files : Files}
    (h : ¬∃ es, Opens files (some path) es) : ∃ e, load path files = .error e := by
  cases hread : files.read? path with
  | none => exact ⟨unreadable path, by simp [load, hread]⟩
  | some text =>
    cases hf : ofToml? text with
    | none => exact ⟨malformed path, by simp [load, hread, hf]⟩
    | some f =>
      obtain ⟨es, hparse, hreadable⟩ := readable_of_ofToml? hf
      exact absurd ⟨es, text, hread, hparse, hreadable⟩ h

theorem start_of_opens {files : Files} {path : Option String} {es : Toml.Entries}
    (h : Opens files path es) (t : Tracing) :
    ∃ f, t.call (.start files path) = (.ok (), { t with files, filter := f }) ∧
      Follows es [] f := by
  cases path with
  | none =>
    cases h
    exact ⟨{ running := true }, rfl, rfl, rfl, fun _ => rfl⟩
  | some path =>
    obtain ⟨f, hload, hfollows⟩ := load_of_opens h
    exact ⟨f, by simp [call, Backend.start, start, hload], hfollows⟩

theorem start_of_not_opens {files : Files} {path : Option String}
    (h : ¬∃ es, Opens files path es) (t : Tracing) :
    ∃ e, t.call (.start files path) = (.error e, { t with files }) := by
  cases path with
  | none => exact absurd ⟨[], rfl⟩ h
  | some path =>
    obtain ⟨e, hload⟩ := load_of_not_opens h
    exact ⟨e, by simp [call, Backend.start, start, hload]⟩

theorem running_of_start {path : Option String} {t t' : Tracing}
    (h : t.start path = (.ok (), t')) : t'.filter.running := by
  have hcall : t.call (.start t.files path) = (.ok (), t') := h
  by_cases hopens : ∃ es, Opens t.files path es
  · obtain ⟨es, hes⟩ := hopens
    obtain ⟨f, hstart, hfollows⟩ := start_of_opens hes t
    cases hstart.symm.trans hcall
    exact hfollows.running
  · obtain ⟨e, hstart⟩ := start_of_not_opens hopens t
    cases hstart.symm.trans hcall

@[simp] theorem filter_forward (s : Severity) (logger message : String) (t : Tracing) :
    (t.forward s logger message).filter = t.filter := by
  unfold forward
  split <;> rfl

theorem Follows.call {es : Toml.Entries} {since : List Call} {t : Tracing} {c : Call}
    (h : Follows es since t.filter) (hc : ¬c.switches) :
    Follows es (since ++ [c]) (t.call c).2.filter := by
  have hsame (hlevel : ∀ logger, c.levelFor logger = none)
      (hfilter : (t.call c).2.filter = t.filter) :
      Follows es (since ++ [c]) (t.call c).2.filter := by
    rw [hfilter]
    refine ⟨h.running, ?_, fun logger => ?_⟩
    · rw [latest_snoc, hlevel, Option.none_or, h.common]
    · rw [latest_snoc, hlevel, Option.none_or, h.own]
  cases c with
  | start files path =>
    obtain ⟨e, heq⟩ := start_of_not_opens hc t
    exact hsame (fun _ => rfl) (by rw [heq])
  | setLevel logger level =>
    cases logger with
    | none =>
      refine ⟨h.running, ?_, fun logger => ?_⟩
      · rw [latest_snoc]
        rfl
      · rw [latest_snoc]
        exact h.own logger
    | some name =>
      refine ⟨h.running, ?_, fun logger => ?_⟩
      · rw [latest_snoc]
        exact h.common
      · change (t.filter.setLevel (some name) level).loggers.lookup logger = _
        rw [latest_snoc, lookup_setLevel, h.own]
        by_cases hname : logger = name
        · simp [Call.levelFor, hname]
        · simp [Call.levelFor, hname, Ne.symm hname]
  | forward s logger message => exact hsame (fun _ => rfl) (filter_forward s logger message t)
  | shutdown => exact absurd trivial hc

theorem running_call {t : Tracing} {c : Call} (hc : ¬c.switches) :
    (t.call c).2.filter.running = t.filter.running := by
  cases c with
  | start files path =>
    obtain ⟨e, heq⟩ := start_of_not_opens hc t
    rw [heq]
  | setLevel logger level => cases logger <;> rfl
  | forward s logger message => exact congrArg _ (filter_forward s logger message t)
  | shutdown => exact absurd trivial hc

/-! A run -/

def run (t : Tracing) (calls : List Call) : Tracing :=
  calls.foldl (fun t c => (t.call c).2) t

@[simp] theorem run_concat (t : Tracing) (calls : List Call) (c : Call) :
    t.run (calls ++ [c]) = ((t.run calls).call c).2 :=
  List.foldl_append

theorem Follows.run {es : Toml.Entries} {since calls : List Call} {t : Tracing}
    (h : Follows es since t.filter) (hcalls : ∀ c ∈ calls, ¬c.switches) :
    Follows es (since ++ calls) (t.run calls).filter := by
  induction calls generalizing since t with
  | nil =>
    rw [List.append_nil]
    exact h
  | cons c calls ih =>
    have hstep := h.call (hcalls c List.mem_cons_self)
    rw [← List.singleton_append, ← List.append_assoc]
    exact ih hstep fun c' hc' => hcalls c' (List.mem_cons_of_mem c hc')

theorem follows_of_runs {calls since : List Call} {es : Toml.Entries} (t : Tracing)
    (h : Runs calls es since) : Follows es since (t.run calls).filter := by
  obtain ⟨before, files, path, rfl, hopens, hsince⟩ := h
  obtain ⟨f, hstart, hfollows⟩ := start_of_opens hopens (t.run before)
  have hrun : t.run (before ++ .start files path :: since) =
      ((t.run before).call (.start files path)).2.run since := by
    rw [run, List.foldl_append]
    rfl
  rw [hrun, hstart]
  have hfollows' : Follows es [] { t.run before with files, filter := f }.filter := hfollows
  exact hfollows'.run hsince

theorem runs_of_running {files : Files} {calls : List Call}
    (h : (run { files } calls).filter.running) : ∃ es since, Runs calls es since := by
  induction calls using List.reverseRecOn with
  | nil => cases h
  | append_singleton calls c ih =>
    rw [run_concat] at h
    by_cases hc : c.switches
    · cases c with
      | start files path =>
        obtain ⟨es, hopens⟩ := hc
        exact ⟨es, [], calls, files, path, rfl, hopens, fun _ h => absurd h List.not_mem_nil⟩
      | shutdown => cases h
      | _ => cases hc
    · rw [running_call hc] at h
      obtain ⟨es, since, before, files, path, rfl, hopens, hsince⟩ := ih h
      refine ⟨es, since ++ [c], before, files, path, by simp, hopens, fun c' hc' => ?_⟩
      rcases List.mem_append.mp hc' with hc' | hc'
      · exact hsince c' hc'
      · rwa [List.mem_singleton.mp hc']

/-- An event is let through, and a notice of it emitted, if and only if the last successful start
or shutdown was a start, and the event is at least as severe as the level that was last set for its
logger since then, or else the one in the document for it, or else the one last set for all loggers
since then, or else the one in the document for all, if there is any. A start that fails changes no
answer. -/
theorem passes_iff_threshold (files : Files) (calls : List Call) :
    let t := run { files } calls
    (∀ (logger : String) (s : Severity), t.filter.passes logger s ↔
      ∃ es since, Runs calls es since ∧ threshold es since logger ≤ s) ∧
    (∀ (s : Severity) (logger message : String), Backend.forward s logger message t =
      (.returned, if t.filter.passes logger s then
        { t with emitted := t.emitted ++ [.ofEvent s logger message] } else t)) ∧
    ∀ (files' : Files) (path : Option String),
      ((∃ es, Opens files' path es) ∧ (t.call (.start files' path)).1 = .ok ()) ∨
      ((∃ e, (t.call (.start files' path)).1 = .error e) ∧
        ∀ (logger : String) (s : Severity),
          (t.call (.start files' path)).2.filter.passes logger s = t.filter.passes logger s) := by
  refine ⟨fun logger s => ⟨fun h => ?_, fun ⟨es, since, hruns, hle⟩ => ?_⟩, fun _ _ _ => rfl,
    fun files' path => ?_⟩
  · have hrunning : (run { files } calls).filter.running := (Bool.and_eq_true_iff.mp h).1
    obtain ⟨es, since, hruns⟩ := runs_of_running hrunning
    exact ⟨es, since, hruns, ((follows_of_runs _ hruns).passes_iff logger s).mp h⟩
  · exact ((follows_of_runs _ hruns).passes_iff logger s).mpr hle
  · by_cases hopens : ∃ es, Opens files' path es
    · obtain ⟨es, hes⟩ := hopens
      obtain ⟨f, hstart, -⟩ := start_of_opens hes (run { files } calls)
      exact .inl ⟨⟨es, hes⟩, by rw [hstart]⟩
    · obtain ⟨e, hstart⟩ := start_of_not_opens hopens (run { files } calls)
      exact .inr ⟨⟨e, by rw [hstart]⟩, fun _ _ => by rw [hstart]⟩

end Tracing

end LogRouting
