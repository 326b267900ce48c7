import LogRouting.Backend
import LogRouting.Proofs.Router.Run
import Mathlib.Data.List.Induction
/-!
Configuring and shutting down, whoever has borrowed the registry or the backend and whatever fails.
Configuring tells one story by what it reports, returns and installs. A shutdown that fails leaves a
router that can be shut down again, and whatever comes of it, events go to the console alone from
then on. Main statements: `configured_configure`, `shutdown_failsafe`.
-/
namespace LogRouting

theorem LogError.status_ne_ok (e : LogError) : e.status ≠ .ok := by
  cases e <;> exact Status.noConfusion

namespace Attempts

@[simp] theorem result_concat (attempts : List Attempt) (a : Attempt) :
    result (attempts ++ [a]) =
      match a.result with
      | .ok () => result attempts
      | .error e => .error e := by
  unfold result
  rw [List.foldl_append]
  rfl

@[simp] theorem outcomes_concat (attempts : List Attempt) (a : Attempt) :
    (report (attempts ++ [a])).outcomes =
      (report attempts).outcomes ++ [(a.subsystem, .ofResult a.result)] := by
  simp [report]

theorem result_ok_iff (attempts : List Attempt) :
    result attempts = .ok () ↔ (report attempts).isClean := by
  induction attempts using List.reverseRecOn with
  | nil => exact iff_of_true rfl rfl
  | append_singleton attempts a ih =>
    rw [result_concat, Report.isClean, outcomes_concat, List.all_append, Bool.and_eq_true]
    rcases a.result with e | ⟨⟩
    · simp [Status.ofResult, Status.isOk, e.status_ne_ok]
    · simpa [Status.ofResult, Status.isOk, Report.isClean] using ih

theorem failures_of_result {attempts : List Attempt} {e : LogError}
    (h : result attempts = .error e) :
    ∃ subsystem, (report attempts).failures.getLast? = some (subsystem, e.status) := by
  induction attempts using List.reverseRecOn with
  | nil => cases h
  | append_singleton attempts a ih =>
    rw [result_concat] at h
    rw [Report.failures, outcomes_concat, List.filter_append]
    rcases ha : a.result with e' | ⟨⟩
    · rw [ha] at h
      cases h
      exact ⟨a.subsystem, by simp [Status.ofResult, Status.isOk, e.status_ne_ok]⟩
    · rw [ha] at h
      obtain ⟨subsystem, hlast⟩ := ih h
      exact ⟨subsystem, by simpa [Status.ofResult, Status.isOk, Report.failures] using hlast⟩

end Attempts

namespace Router

variable {C T B : Type} [Backend B]

/-- One story of what came of configuring: reported, returned and installed. -/
structure Configured (o : Options) (r : Router C T B) (answer : Except LogError Unit)
    (r' : Router C T B) : Prop where
  outcomes : r'.report.outcomes =
    (if o.console then [(.console, .ok)] else []) ++
      (if o.registry then [(.registry, .ofResult r.stage.registry.initOutcome)] else []) ++
      (if o.external then [(.external, .ofResult (o.externalOutcome r.stage.backend))] else [])
  clean : answer = .ok () ↔ r'.report.isClean
  last : ∀ e, answer = .error e →
    ∃ subsystem, r'.report.failures.getLast? = some (subsystem, e.status)
  installed : ∃ c : Chain Subsystem, r'.output.handler = .chain c ∧ c.sinks =
    (if o.console then [.console] else []) ++
      (if o.registry && r.stage.registry.initOutcome.isOk then [.registry] else []) ++
      (if o.external && (o.startOutcome r.stage.backend).isOk then [.external] else [])
  options : r'.options = some o
  threshold : r'.output.threshold = o.severity.getD r.output.threshold
  backend : r'.stage.backend = { r.stage.backend with
    value := if o.external then o.levelled r.stage.backend else r.stage.backend.value }
  rows : r'.registry.rows = r.registry.rows
  others : r'.stage.console = r.stage.console ∧ r'.stage.transport = r.stage.transport

/-- Whatever the router was, whatever it is to be configured with, and whatever fails. -/
theorem configured_configure (r : Router C T B) (o : Options) :
    Configured o r (r.configure o).1 (r.configure o).2 := by
  have hconfigure : r.configure o =
      (Attempts.result (r.stage.bringUp o).1, {
        stage := (r.stage.bringUp o).2
        output := ⟨.chain (Attempts.chain (r.stage.bringUp o).1),
          o.severity.getD r.output.threshold⟩
        options := some o
        report := Attempts.report (r.stage.bringUp o).1 }) := rfl
  rw [hconfigure, Stage.bringUp_attempts]
  refine ⟨Stage.outcomes_attempts r.stage o, Attempts.result_ok_iff _,
    fun e he => Attempts.failures_of_result he, ⟨_, rfl, Stage.sinks_attempts r.stage o⟩,
    rfl, rfl, rfl, ?_, rfl, rfl⟩
  rw [registry]
  cases o.registry with
  | false => rfl
  | true => exact r.stage.registry.rows_initialised

example :
    let r : Router Unit Journal Tracing :=
      { stage :=
          { console := ()
            registry := ⟨{ config := {} }, .free⟩
            transport := {}
            backend := ⟨{}, .reading⟩ } }
    (r.configure {}).2.report.failures = [(.external, .error)] ∧
      (r.configure {}).2.output.handler = .chain (.ofList [.console, .registry]) ∧
      (r.configure {}).2.options = some {} := ⟨rfl, rfl, rfl⟩

end Router

namespace Stage

variable {C T B : Type} [Transport T] {s s' : Stage C T B} {e : LogError} {names : List String}

/-- What a failed teardown of the registry leaves: the backend as it was, and a registry that is up
if it was, with some of its entries. -/
private theorem withRegistry_finiIn_error (ho : s.registry.value.names ⊆ names)
    (h : s.withRegistry (·.finiIn names) = (.error e, s')) :
    s'.backend = s.backend ∧ s'.registry.value.isUp = s.registry.value.isUp ∧
      s'.registry.value.rows.Sublist s.registry.value.rows := by
  by_cases hfree : s.registry.lease.mayWrite
  · rw [withRegistry_of_mayWrite hfree] at h
    have hcases := Registry.finiIn_cases s.transport ho
    generalize s.registry.value.finiIn names s.transport = outcome at hcases h
    cases hcases with
    | down | finished => cases h
    | stopped hr hd =>
      cases h
      refine ⟨rfl, ?_, ?_⟩
      · simp [Registry.isUp, hr]
      · rw [Registry.rows_of_up hr]
        exact hd.sublist
  · rw [withRegistry_of_lent hfree] at h
    cases h
    exact ⟨rfl, rfl, List.Sublist.refl _⟩

theorem leaveRegistry_succeeds {enabled : Bool} (ho : s.registry.value.names ⊆ names)
    (h : enabled → (s.withRegistry (·.finiIn names)).1 = .ok ()) :
    ∃ s', s.leaveRegistry names enabled = (.ok (), s') ∧ s'.backend = s.backend ∧
      (enabled → s'.registry.value.isUp = false) := by
  have hok : (s.leaveRegistry names enabled).1 = .ok () := by
    cases enabled with
    | false => rfl
    | true => exact h rfl
  have hleave : s.leaveRegistry names enabled = (.ok (), (s.leaveRegistry names enabled).2) :=
    Prod.ext hok rfl
  refine ⟨_, hleave, backend_leaveRegistry names enabled s, fun henabled => ?_⟩
  have hdown := leaveRegistry_ok ho hleave
  rwa [if_pos henabled] at hdown

end Stage

namespace Router

variable {C T B : Type} [Transport T] [Backend B] {r : Router C T B} {names : List String}
  {o : Options} {e : LogError} {s s' : Stage C T B}

private theorem shutdownIn_of_unconfigured (ho : r.options = none) :
    r.shutdownIn names = (.ok (), r.install .console) := by
  have hcases := shutdownIn_cases names r
  generalize r.shutdownIn names = outcome at hcases ⊢
  cases hcases with
  | unconfigured => rfl
  | stopped ho' | stuck ho' | done ho' => cases ho.symm.trans ho'

private theorem shutdownIn_of_stopped (ho : r.options = some o)
    (hr : r.stage.leaveRegistry names o.registry = (.error e, s)) :
    r.shutdownIn names = (.error e, { r.install .console with stage := s }) := by
  have hcases := shutdownIn_cases names r
  generalize r.shutdownIn names = outcome at hcases ⊢
  cases hcases with
  | unconfigured ho' => cases ho.symm.trans ho'
  | stopped ho' hr' =>
    cases ho.symm.trans ho'
    cases hr.symm.trans hr'
    rfl
  | stuck ho' hr' | done ho' hr' =>
    cases ho.symm.trans ho'
    cases hr.symm.trans hr'

theorem shutdownIn_of_left (ho : r.options = some o)
    (hr : r.stage.leaveRegistry names o.registry = (.ok (), s)) :
    r.shutdownIn names = ((s.leaveBackend o.external).1,
      { r.install .console with
        stage := (s.leaveBackend o.external).2
        options := if (s.leaveBackend o.external).1.isOk then none else some o }) := by
  have hcases := shutdownIn_cases names r
  generalize r.shutdownIn names = outcome at hcases ⊢
  cases hcases with
  | unconfigured ho' => cases ho.symm.trans ho'
  | stopped ho' hr' =>
    cases ho.symm.trans ho'
    cases hr.symm.trans hr'
  | stuck ho' hr' hb =>
    cases ho.symm.trans ho'
    cases hr.symm.trans hr'
    rw [hb, ← ho]
    rfl
  | done ho' hr' hb =>
    cases ho.symm.trans ho'
    cases hr.symm.trans hr'
    rw [hb]
    rfl

theorem registry_shutdownIn (ho : r.options = some o) (hregistry : o.registry)
    (names : List String) :
    let left := (r.stage.withRegistry (·.finiIn names)).2
    (r.shutdownIn names).2.stage.registry = left.registry ∧
      (r.shutdownIn names).2.stage.transport = left.transport := by
  intro left
  obtain ⟨hnone, -⟩ | ⟨o', enabled, ho', hstage⟩ := stage_shutdownIn names r
  · cases ho.symm.trans hnone
  · cases ho.symm.trans ho'
    rw [hstage, Stage.leaveBackend_frame, Stage.leaveRegistry, if_pos hregistry]
    exact ⟨rfl, rfl⟩

theorem options_shutdownIn (names : List String) (r : Router C T B) :
    (r.shutdownIn names).2.options = none ↔ (r.shutdownIn names).1 = .ok () := by
  have hcases := shutdownIn_cases names r
  generalize r.shutdownIn names = outcome at hcases ⊢
  cases hcases with
  | unconfigured ho => exact iff_of_true ho rfl
  | stopped ho | stuck ho =>
    refine iff_of_false (fun hnone => ?_) nofun
    cases ho.symm.trans hnone
  | done => exact iff_of_true rfl rfl

variable [Display C]

/-- A request that meets whatever others have made of the stage that they share with the router. -/
def meet (r : Router C T B) (turn : Stage C T B × Request) : Router C T B :=
  { r with stage := turn.1 }.serve turn.2

theorem handler_serve (h : r.output.handler = .console) {q : Request} (hq : ∀ o, q ≠ .configure o) :
    (r.serve q).output.handler = .console := by
  cases q with
  | configure o => exact absurd rfl (hq o)
  | shutdown order => exact congrArg Output.handler (output_shutdownIn ..)
  | register | unregister | acquire | release => exact h
  | log e =>
    rw [serve, log_snd]
    exact h

theorem handler_turns (h : r.output.handler = .console) {turns : List (Stage C T B × Request)}
    (hturns : ∀ t ∈ turns, ∀ o, t.2 ≠ .configure o) :
    (turns.foldl meet r).output.handler = .console := by
  induction turns generalizing r with
  | nil => exact h
  | cons t turns ih =>
    have hmet : (r.meet t).output.handler = .console :=
      handler_serve (r := { r with stage := t.1 }) h (hturns t List.mem_cons_self)
    exact ih hmet fun t' ht' => hturns t' (List.mem_cons_of_mem t ht')

private theorem log_of_console (h : r.output.handler = .console) (e : Event) :
    ∃ console, (r.log e).2.stage = { r.stage with console } := by
  rw [log_snd, h]
  by_cases hpasses : r.output.isEnabledFor e.severity
  · rw [if_pos hpasses]
    exact ⟨_, rfl⟩
  · rw [if_neg hpasses]
    exact ⟨r.stage.console, rfl⟩

/-- What a shutdown comes to, by what taking down the registry and the backend comes to. It is
`quiet` after it until the next configuration, whatever others do to the stage meanwhile. -/
structure Failsafe (order : Registry.Order) (r : Router C T B) (answer : Except LogError Unit)
    (r' : Router C T B) : Prop where
  handler : r'.output.handler = .console
  quiet : ∀ turns : List (Stage C T B × Request), (∀ t ∈ turns, ∀ o, t.2 ≠ .configure o) →
    ∀ (stage : Stage C T B) (e : Event),
      let logged := ({ turns.foldl meet r' with stage := stage }.log e).2
      logged.stage.transport = stage.transport ∧ logged.stage.backend = stage.backend
  unconfigured : r.options = none → answer = .ok () ∧ r'.stage = r.stage
  registry_fails : ∀ o e s, r.options = some o → o.registry →
    r.stage.withRegistry (·.finiIn (order.arrange r.registry.names)) = (.error e, s) →
    answer = .error e ∧ r'.stage = s ∧ r'.stage.backend = r.stage.backend ∧
      r'.options = some o ∧ r'.registry.isUp = r.registry.isUp ∧
      r'.registry.rows.Sublist r.registry.rows ∧
      ∀ later : Registry.Order,
        let again := r'.stage.withRegistry (·.finiIn (later.arrange r'.registry.names))
        let r'' := (r'.shutdownIn (later.arrange r'.registry.names)).2
        r''.stage.registry = again.2.registry ∧ r''.stage.transport = again.2.transport
  backend_fails : ∀ o e, r.options = some o →
    (o.registry →
      (r.stage.withRegistry (·.finiIn (order.arrange r.registry.names))).1 = .ok ()) →
    o.external → (r.stage.withBackend Backend.shutdown).1 = .error e →
    answer = .error e ∧ (o.registry → r'.registry.isUp = false) ∧ r'.options = some o
  succeeds : ∀ o, r.options = some o →
    (o.registry →
      (r.stage.withRegistry (·.finiIn (order.arrange r.registry.names))).1 = .ok ()) →
    (o.external → (r.stage.withBackend Backend.shutdown).1 = .ok ()) → answer = .ok ()
  options : r'.options = none ↔ answer = .ok ()

/-- Whatever the router was and whatever fails. -/
theorem shutdown_failsafe (order : Registry.Order) (r : Router C T B) :
    Failsafe order r (r.shutdownIn (order.arrange r.registry.names)).1
      (r.shutdownIn (order.arrange r.registry.names)).2 := by
  have hconsole : (r.shutdownIn (order.arrange r.registry.names)).2.output.handler = .console :=
    congrArg Output.handler (output_shutdownIn ..)
  have hcovers := order.covers r.registry.names
  refine ⟨hconsole, ?_, ?_, ?_, ?_, ?_, options_shutdownIn _ r⟩
  · intro turns hturns stage e logged
    have hbare := handler_turns hconsole hturns
    obtain ⟨console, hlog⟩ :=
      log_of_console (r := { turns.foldl meet _ with stage := stage }) hbare e
    rw [show logged.stage = _ from hlog]
    exact ⟨rfl, rfl⟩
  · intro ho
    rw [shutdownIn_of_unconfigured ho]
    exact ⟨rfl, rfl⟩
  · intro o e s ho hregistry hfails
    have hleave : r.stage.leaveRegistry (order.arrange r.registry.names) o.registry =
        (.error e, s) := by
      rw [Stage.leaveRegistry, if_pos hregistry, hfails]
    obtain ⟨hbackend, hup, hsub⟩ := Stage.withRegistry_finiIn_error hcovers hfails
    rw [shutdownIn_of_stopped ho hleave]
    refine ⟨rfl, rfl, hbackend, ho, hup, hsub, fun later => ?_⟩
    exact registry_shutdownIn (r := { r.install .console with stage := s }) ho hregistry _
  · intro o e ho hregistry hexternal hfails
    obtain ⟨s, hleave, hbackend, hdown⟩ := Stage.leaveRegistry_succeeds hcovers hregistry
    rw [← Stage.withBackend_fst hbackend] at hfails
    rw [shutdownIn_of_left ho hleave, Stage.leaveBackend, if_pos hexternal, hfails]
    refine ⟨rfl, fun hasks => ?_, rfl⟩
    dsimp only [registry]
    rw [Stage.withBackend_frame]
    exact hdown hasks
  · intro o ho hregistry hexternal
    obtain ⟨s, hleave, hbackend, -⟩ := Stage.leaveRegistry_succeeds hcovers hregistry
    rw [shutdownIn_of_left ho hleave, Stage.leaveBackend]
    cases hx : o.external with
    | false => rfl
    | true => exact (Stage.withBackend_fst hbackend _).trans (hexternal hx)

example :
    let r : Router Unit Journal Tracing :=
      { stage :=
          { console := ()
            registry :=
            ⟨{ config := {}, loggers := some [⟨⟨"nav", ⟨7⟩, ⟨⟨7⟩, "rosout"⟩⟩, "nav"⟩] }, .free⟩
            transport := { failDestroyOn := some 1 }
            backend := ⟨{}, .free⟩ }
        options := some {} }
    r.shutdown.2.registry.names = ["nav"] ∧ r.shutdown.2.shutdown.1 = .ok () ∧
      r.shutdown.2.shutdown.2.isConfigured = false := ⟨rfl, rfl, rfl⟩

end Router

end LogRouting
