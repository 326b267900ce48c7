import LogRouting.Proofs.Registry.Balance
import LogRouting.Proofs.Router.Run
/-!
What a router leaves up when it has been shut down. A shutdown goes by the options in force, and
configuring again never takes anything down, so whatever is up has to be among those options for
nothing to stay behind. Main statement: `shutdown_releases`.
-/
namespace LogRouting

namespace Stage

variable {C T : Type} {s s' : Stage C T Tracing}

def running (s : Stage C T Tracing) : Bool :=
  s.backend.value.filter.running

private theorem leaveBackend_ok {enabled : Bool} (h : s.leaveBackend enabled = (.ok (), s')) :
    if enabled then s'.running = false else s' = s := by
  cases enabled with
  | false => exact (congrArg Prod.snd h).symm
  | true =>
    rw [leaveBackend, if_pos rfl] at h
    exact (congrArg (·.2.filter.running) (withBackend_ok h)).symm

private theorem running_of_leaveBackend {enabled : Bool} (h : (s.leaveBackend enabled).2.running) :
    s.running := by
  cases enabled with
  | false => exact h
  | true =>
    rw [leaveBackend, if_pos rfl, withBackend] at h
    split at h
    · cases h
    · exact h

private theorem running_bringUp (hfree : s.registry.lease = .free) {o : Options}
    (ho : o.external = false) : (s.bringUp o).2.running = s.running := by
  rw [bringUp_eq hfree, ho, withRegistryUp]
  cases o.registry <;> rfl

@[simp] private theorem running_chain [Display C] [Transport T] (sinks : List Subsystem) (e : Event)
    (s : Stage C T Tracing) :
    (sinks.foldl (fun d x => (Sink.handle x e d).2) s).running = s.running := by
  induction sinks generalizing s with
  | nil => rfl
  | cons sink sinks ih =>
    rw [List.foldl_cons, ih]
    cases sink with
    | console | registry => rfl
    | external =>
      change (s.forward e).2.running = _
      unfold forward
      split
      · change (Tracing.forward e.severity e.logger e.message s.backend.value).filter.running = _
        unfold Tracing.forward
        split <;> rfl
      · rfl

theorem running_handled [Display C] [Transport T] (h : Handler) (e : Event)
    (s : Stage C T Tracing) : (Sink.handle h e s).2.running = s.running := by
  cases h with
  | console => rfl
  | chain c => exact running_chain c.sinks e s

end Stage

namespace Router

variable {C T : Type} [Display C] [Transport T] {r : Router C T Tracing}

theorem running_serve {q : Request} (hq : q.decides = false) :
    (r.serve q).stage.running = r.stage.running := by
  cases q with
  | configure | shutdown => cases hq
  | register | unregister | release => rfl
  | acquire o =>
    rw [serve, acquire_snd]
    rfl
  | log e =>
    rw [serve, log_snd]
    dsimp only
    split
    · exact Stage.running_handled r.output.handler e r.stage
    · rfl

/-- What a shutdown that reports success leaves of a router. -/
structure Finished (r r' : Router C T Tracing) : Prop where
  options : r'.options = none
  handler : r'.output.handler = .console
  registry_down : r.asks (·.registry) → r'.registry.isUp = false
  registry_kept : ¬r.asks (·.registry) → r'.service = r.service
  backend_down : r.asks (·.external) → r'.stage.running = false
  backend_kept : ¬r.asks (·.external) → r'.stage.backend = r.stage.backend

omit [Display C] in
private theorem options_of_error {order : List String} {e : LogError}
    (h : (r.shutdownIn order).1 = .error e) : (r.shutdownIn order).2.options = r.options := by
  have hcases := shutdownIn_cases order r
  generalize r.shutdownIn order = outcome at hcases h ⊢
  cases hcases with
  | unconfigured | done => cases h
  | stopped | stuck => rfl

omit [Display C] in
private theorem running_of_shutdownIn {order : List String}
    (h : (r.shutdownIn order).2.stage.running) : r.stage.running := by
  obtain ⟨-, hstage⟩ | ⟨o, enabled, -, hstage⟩ := stage_shutdownIn order r
  · rwa [hstage] at h
  · rw [hstage] at h
    have hrunning := Stage.running_of_leaveBackend h
    rwa [Stage.running, Stage.backend_leaveRegistry] at hrunning

theorem finished_shutdown (hfree : r.stage.registry.lease = .free) (order : Registry.Order)
    (hok : (r.shutdownIn (order.arrange r.registry.names)).1 = .ok ()) :
    r.Finished (r.serve (.shutdown order)) := by
  have hkept (hasks : ¬r.asks (·.registry)) :
      (r.serve (.shutdown order)).service = r.service :=
    (service_shutdownIn hfree _).trans (if_neg hasks)
  have hcases := shutdownIn_cases (order.arrange r.registry.names) r
  have hserve : r.serve (.shutdown order) =
      (r.shutdownIn (order.arrange r.registry.names)).2 := rfl
  generalize r.shutdownIn (order.arrange r.registry.names) = outcome at hcases hok hserve
  cases hcases with
  | unconfigured ho =>
    refine ⟨?_, ?_, fun hasks => ?_, hkept, fun hasks => ?_, fun _ => ?_⟩
    · rw [hserve]
      exact ho
    · rw [hserve]
      rfl
    · exact absurd hasks (asks_of_none ho _)
    · exact absurd hasks (asks_of_none ho _)
    · rw [hserve]
      rfl
  | stopped | stuck => cases hok
  | @done o stage stage' ho hr hb =>
    have hregistry := Stage.leaveRegistry_ok (order.covers _) hr
    have hbackend := Stage.leaveBackend_ok hb
    have hsame := Stage.backend_leaveRegistry (order.arrange r.registry.names) o.registry r.stage
    have hframe := Stage.leaveBackend_frame o.external stage
    rw [hr] at hsame
    rw [hb] at hframe
    dsimp only at hsame hframe
    refine ⟨?_, ?_, fun hasks => ?_, hkept, fun hasks => ?_, fun hasks => ?_⟩
    · rw [hserve]
    · rw [hserve]
      rfl
    · rw [asks_of_some ho] at hasks
      rw [if_pos hasks] at hregistry
      rw [hserve]
      dsimp only [registry]
      rw [hframe]
      exact hregistry
    · rw [asks_of_some ho] at hasks
      rw [if_pos hasks] at hbackend
      rw [hserve]
      exact hbackend
    · rw [asks_of_some ho] at hasks
      rw [if_neg hasks] at hbackend
      rw [hserve, hbackend, hsame]

/-- What is up is among the options in force. -/
structure Covered (r : Router C T Tracing) : Prop where
  registry : r.registry.isUp → r.asks (·.registry)
  backend : r.stage.running → r.asks (·.external)

def leavesOut (r : Router C T Tracing) : Request → Bool
  | .configure o => (r.registry.isUp && !o.registry) || (r.stage.running && !o.external)
  | _ => false

private theorem covered_configure (hfree : r.stage.registry.lease = .free) {o : Options}
    (hs : r.leavesOut (.configure o) = false) : (r.serve (.configure o)).Covered := by
  simp only [leavesOut, Bool.or_eq_false_iff, Bool.and_eq_false_iff, Bool.not_eq_false'] at hs
  have hasks (setting : Options → Bool) :
      (r.serve (.configure o)).asks setting = setting o := rfl
  constructor
  · intro hup
    rw [hasks]
    have hregistry : (r.serve (.configure o)).registry = _ :=
      congrArg (·.registry.value) (service_configure hfree o)
    rw [hregistry] at hup
    cases ho : o.registry with
    | true => rfl
    | false =>
      rw [ho] at hs hup
      exact absurd hup (by simpa using hs.1)
  · intro hrunning
    rw [hasks]
    cases ho : o.external with
    | true => rfl
    | false =>
      have hstage : (r.serve (.configure o)).stage = (r.stage.bringUp o).2 := rfl
      rw [hstage, Stage.running_bringUp hfree ho] at hrunning
      rw [ho] at hs
      exact absurd hrunning (by simpa using hs.2)

theorem covered_shutdown (hfree : r.stage.registry.lease = .free) (hc : r.Covered)
    (order : Registry.Order) : (r.serve (.shutdown order)).Covered := by
  have hserve : r.serve (.shutdown order) =
      (r.shutdownIn (order.arrange r.registry.names)).2 := rfl
  cases hresult : (r.shutdownIn (order.arrange r.registry.names)).1 with
  | ok u =>
    have hfinished := finished_shutdown hfree order hresult
    constructor
    · intro hup
      by_cases hasks : r.asks (·.registry)
      · rw [hfinished.registry_down hasks] at hup
        cases hup
      · have hsame : (r.serve (.shutdown order)).registry = r.registry :=
          congrArg (·.registry.value) (hfinished.registry_kept hasks)
        rw [hsame] at hup
        exact absurd (hc.registry hup) hasks
    · intro hrunning
      by_cases hasks : r.asks (·.external)
      · rw [hfinished.backend_down hasks] at hrunning
        cases hrunning
      · rw [Stage.running, hfinished.backend_kept hasks] at hrunning
        exact absurd (hc.backend hrunning) hasks
  | error e =>
    -- the options stay in force, and whatever went down by then is down
    have hoptions := options_of_error hresult
    constructor
    · intro hup
      rw [hserve, asks, hoptions]
      apply hc.registry
      have hregistry : (r.serve (.shutdown order)).registry = _ :=
        congrArg (·.registry.value) (service_shutdownIn hfree _)
      rw [hregistry] at hup
      split at hup
      · exact Registry.isUp_of_finiIn (order.covers _) hup
      · exact hup
    · intro hrunning
      rw [hserve, asks, hoptions]
      exact hc.backend (running_of_shutdownIn hrunning)

theorem covered_serve (hfree : r.stage.registry.lease = .free) (hc : r.Covered) {q : Request}
    (hs : r.leavesOut q = false) : (r.serve q).Covered := by
  cases hd : q.decides with
  | false =>
    obtain ⟨-, hoptions, hup⟩ := serve_of_not_decides hfree hd
    constructor
    · rw [hup, asks, hoptions]
      exact hc.registry
    · rw [running_serve hd, asks, hoptions]
      exact hc.backend
  | true =>
    cases q with
    | configure o => exact covered_configure hfree hs
    | shutdown order => exact covered_shutdown hfree hc order
    | _ => cases hd

section
variable {C : Type} [Display C] {r : Router C Journal Tracing}

def steady (r : Router C Journal Tracing) : List (Step Journal.Script Files) → Bool
  | [] => true
  | .ask q :: steps => !r.leavesOut q && (r.serve q).steady steps
  | c :: steps => (r.step c).steady steps

theorem covered_run (hfree : r.stage.registry.lease = .free) (hc : r.Covered)
    {steps : List (Step Journal.Script Files)} (hs : r.steady steps) : (r.run steps).Covered := by
  induction steps generalizing r with
  | nil => exact hc
  | cons c steps ih =>
    cases c with
    | ask q =>
      rw [steady, Bool.and_eq_true, Bool.not_eq_true'] at hs
      exact ih (free_serve hfree q) (covered_serve hfree hc hs.1) hs.2
    | allot | transport | backend => exact ih hfree ⟨hc.registry, hc.backend⟩ hs

def lost (r : Router C Journal Tracing) (steps : List (Step Journal.Script Files)) :
    List Registry.Loss :=
  r.service.lost (r.stepsOf steps)

omit [Display C] in
private theorem created_of_down {lost : List Registry.Loss}
    (hb : r.registry.Balanced r.stage.transport lost) (hdown : r.registry.isUp = false) :
    (r.stage.transport.created : Multiset OwnerId) =
      r.stage.transport.destroyed + lost.map (·.owner) := by
  have hnone : r.registry.loggers = none := by simpa [Registry.isUp] using hdown
  ext id
  have hid := hb id
  simpa [Registry.owners, Registry.rows_of_down hnone] using hid

private theorem accounted_run (config : RegistryConfig) (console : C) (files : Files)
    (steps : List (Step Journal.Script Files)) :
    let start : Router C Journal Tracing := new config console {} { files }
    (start.run steps).registry.Sound ∧
      (start.run steps).registry.Balanced (start.run steps).stage.transport (start.lost steps) := by
  intro start
  have hservice := service_run (r := start) rfl steps
  have hsound : start.registry.Sound := Registry.sound_of_down rfl
  have hnothing : start.registry.Balanced start.stage.transport [] := fun id => by
    simp [start, new, Registry.owners, Registry.rows]
  have hregistry : (start.run steps).registry =
      (start.service.run (start.stepsOf steps)).registry.value :=
    congrArg (·.registry.value) hservice
  have htransport : (start.run steps).stage.transport =
      (start.service.run (start.stepsOf steps)).transport :=
    congrArg (·.transport) hservice
  rw [hregistry, htransport]
  refine ⟨Registry.Service.sound_run hsound _, ?_⟩
  exact Registry.Service.balanced_run (s := start.service) hsound hnothing (start.stepsOf steps)

private theorem balanced_shutdown {lost : List Registry.Loss}
    (hfree : r.stage.registry.lease = .free)
    (hs : r.registry.Sound) (hb : r.registry.Balanced r.stage.transport lost)
    (order : Registry.Order) :
    (r.serve (.shutdown order)).registry.Balanced (r.serve (.shutdown order)).stage.transport
      lost := by
  have hservice := service_serve hfree (.shutdown order)
  have hregistry : (r.serve (.shutdown order)).registry = _ :=
    congrArg (·.registry.value) hservice
  have htransport : (r.serve (.shutdown order)).stage.transport = _ :=
    congrArg (·.transport) hservice
  rw [hregistry, htransport, relayed]
  cases r.asks (·.registry) with
  | false => exact hb
  | true =>
    have hfini := Registry.Service.balanced_serve (s := r.service) hs hb (.fini order)
    rwa [show r.service.lostBy (.ask (.fini order)) = [] from rfl, List.append_nil] at hfini

/-- Nothing is left of what was brought up, and of the endpoints at most those that got lost. -/
structure Released (lost : List Registry.Loss) (r : Router C Journal Tracing) : Prop where
  options : r.options = none
  handler : r.output.handler = .console
  registry_down : r.registry.isUp = false
  backend_down : r.stage.running = false
  endpoints : (r.stage.transport.created : Multiset OwnerId) =
    r.stage.transport.destroyed + lost.map (·.owner)

/-- Wherever a run has come to, a shutdown that reports success ends the configuration and takes
down exactly what the options in force ask for; a registry among them leaves no endpoint but those
that got lost for want of room. If no request configured without something that was up, that is
everything. -/
theorem shutdown_releases (config : RegistryConfig) (console : C) (files : Files)
    (steps : List (Step Journal.Script Files)) (order : Registry.Order) :
    let start : Router C Journal Tracing := new config console {} { files }
    let lost := start.lost steps
    let r := start.run steps
    let r' := r.serve (.shutdown order)
    (r.shutdownIn (order.arrange r.registry.names)).1 = .ok () →
      r.Finished r' ∧
      (r.asks (·.registry) →
        (r'.stage.transport.created : Multiset OwnerId) =
          r'.stage.transport.destroyed + lost.map (·.owner)) ∧
      (start.steady steps → r'.Released lost) := by
  intro start lost r r' hok
  have hfree : r.stage.registry.lease = .free := free_run rfl steps
  have hfinished : r.Finished r' := finished_shutdown hfree order hok
  obtain ⟨hsound, hrun⟩ := accounted_run config console files steps
  have hbalanced : r'.registry.Balanced r'.stage.transport lost :=
    balanced_shutdown hfree hsound hrun order
  refine ⟨hfinished, fun hasks => created_of_down hbalanced (hfinished.registry_down hasks), ?_⟩
  intro hsteady
  have hcovered : r.Covered :=
    covered_run rfl ⟨fun h => Bool.noConfusion h, fun h => Bool.noConfusion h⟩ hsteady
  obtain ⟨hregistry, hbackend⟩ := covered_shutdown hfree hcovered order
  rw [asks, hfinished.options] at hregistry hbackend
  have hdown : r'.registry.isUp = false := by simpa using hregistry
  exact ⟨hfinished.options, hfinished.handler, hdown, by simpa using hbackend,
    created_of_down hbalanced hdown⟩

/-- A registry and a backend that come up one after the other, for a router that is shut down while
an owner is registered. -/
theorem shutdown_releases_both :
    let start : Router (Console Transcript) Journal Tracing := new {} ⟨.raw, {}⟩ {} {}
    let steps : List (Step Journal.Script Files) :=
      [.ask (.configure { external := false }), .ask (.register ⟨⟨1⟩, some "nav"⟩),
        .ask (.configure {})]
    let r := start.run steps
    (r.shutdownIn (Registry.Order.asEntered.arrange r.registry.names)).1 = .ok () ∧
      start.steady steps ∧ r.registry.names = ["nav"] ∧ r.stage.running ∧
      (r.serve (.shutdown .asEntered)).Released [] := by
  intro start steps r
  have hok : (r.shutdownIn (Registry.Order.asEntered.arrange r.registry.names)).1 = .ok () := by
    decide
  have hsteady : start.steady steps := by decide
  have hlost : start.lost steps = [] := by decide
  have hreleases := (shutdown_releases {} (⟨.raw, {}⟩ : Console Transcript) {} steps .asEntered
    hok).2.2 hsteady
  exact ⟨hok, hsteady, by decide, by decide, hlost ▸ hreleases⟩

/-- A registry and a backend that the last configuration did without stay up, for all that the
shutdown reports success. -/
theorem shutdown_leaves_up :
    let start : Router (Console Transcript) Journal Tracing := new {} ⟨.raw, {}⟩ {} {}
    let steps : List (Step Journal.Script Files) :=
      [.ask (.configure {}), .ask (.register ⟨⟨1⟩, some "nav"⟩),
        .ask (.configure { registry := false, external := false })]
    let r := start.run steps
    let r' := r.serve (.shutdown .asEntered)
    (r.shutdownIn (Registry.Order.asEntered.arrange r.registry.names)).1 = .ok () ∧
      r'.options = none ∧ r'.registry.names = ["nav"] ∧ r'.stage.running ∧
      r'.stage.transport.created = [⟨1⟩] ∧ r'.stage.transport.destroyed = [] := by
  decide

end

end Router

end LogRouting
