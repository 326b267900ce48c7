import LogRouting.Proofs.Backend.History
import LogRouting.Proofs.Router.Teardown
/-!
A chain hands events only to what is up. The options in force, the registry and the backend do not
go up and down together, but what goes down leaves the chain first: a shutdown goes back to the
console before anything else. Main statement: `handler_armed`.
-/
namespace LogRouting

namespace Stage

variable {C T : Type} {s : Stage C T Tracing}

private theorem running_of_attached {o : Options} (h : (s.bringUpExternal o).1.attached) :
    (s.bringUpExternal o).2.running := by
  unfold bringUpExternal at h ⊢
  rcases hs : s.withBackend (Backend.start o.backendConfig) with ⟨e | ⟨⟩, s'⟩
  · rw [hs] at h
    cases h
  · have hrunning : s'.running := Tracing.running_of_start (withBackend_ok hs)
    cases o.severity with
    | none => exact hrunning
    | some severity =>
      dsimp only
      unfold withBackend
      split <;> exact hrunning

end Stage

namespace Router

variable {C T E : Type}

/-- A chain of a configured router, with no sink twice and every sink up. -/
structure Armed (r : Router C T Tracing) (c : Chain Subsystem) : Prop where
  configured : r.isConfigured
  names : (c.sinks.map (·.name)).Sublist ["console", "registry", "external"]
  registry_up : .registry ∈ c.sinks → r.registry.isUp
  backend_up : .external ∈ c.sinks → r.stage.running

variable {r r' : Router C T Tracing} {c : Chain Subsystem}

theorem Armed.of_kept (ha : r.Armed c) (hoptions : r'.options = r.options)
    (hup : r'.registry.isUp = r.registry.isUp) (hrunning : r'.stage.running = r.stage.running) :
    r'.Armed c where
  configured := by
    rw [isConfigured, hoptions]
    exact ha.configured
  names := ha.names
  registry_up h := hup ▸ ha.registry_up h
  backend_up h := hrunning ▸ ha.backend_up h

variable [Transport T]

omit [Transport T] in
theorem armed_configure (hfree : r.stage.registry.lease = .free) (o : Options) :
    (r.configure o).2.Armed (Attempts.chain (r.stage.bringUp o).1) := by
  have hsinks := Stage.sinks_bringUp hfree o
  have hstage : (r.configure o).2.stage = (r.stage.bringUp o).2 := rfl
  refine ⟨rfl, ?_, fun h => ?_, fun h => ?_⟩
  · rw [hsinks]
    cases o.console <;> cases o.registry && r.stage.registry.value.init.1.isOk <;>
      cases o.external && ((r.stage.withRegistryUp o).bringUpExternal o).1.attached <;> decide
  · have hraised : o.registry && r.registry.init.1.isOk := by simpa [hsinks] using h
    rw [Bool.and_eq_true] at hraised
    have hregistry : (r.configure o).2.stage.registry = ⟨r.registry.init.2, .free⟩ := by
      have hservice := congrArg (·.registry) (service_configure hfree o)
      rwa [if_pos hraised.1] at hservice
    rw [registry, hregistry, Registry.isUp_init]
    exact hraised.2
  · have hattached : o.external && ((r.stage.withRegistryUp o).bringUpExternal o).1.attached := by
      simpa [hsinks] using h
    rw [Bool.and_eq_true] at hattached
    have hbackend : (r.stage.bringUp o).2 = ((r.stage.withRegistryUp o).bringUpExternal o).2 := by
      rw [Stage.bringUp_eq hfree]
      exact if_pos hattached.1
    rw [hstage, hbackend]
    exact Stage.running_of_attached hattached.2

variable [Display C]

theorem armed_serve (hfree : r.stage.registry.lease = .free)
    (ha : ∀ c, r.output.handler = .chain c → r.Armed c) (q : Request) :
    ∀ c, (r.serve q).output.handler = .chain c → (r.serve q).Armed c := by
  intro c hc
  cases hq : q.decides with
  | false =>
    obtain ⟨houtput, hoptions, hup⟩ := serve_of_not_decides hfree hq
    rw [houtput] at hc
    exact (ha c hc).of_kept hoptions hup (running_serve hq)
  | true =>
    cases q with
    | configure o =>
      cases hc
      exact armed_configure hfree o
    | shutdown order =>
      rw [serve, output_shutdownIn] at hc
      cases hc
    | _ => cases hq

variable [Environment E T]

theorem armed_run (hfree : r.stage.registry.lease = .free)
    (ha : ∀ c, r.output.handler = .chain c → r.Armed c) (steps : List (Step E Files)) :
    ∀ c, (r.run steps).output.handler = .chain c → (r.run steps).Armed c := by
  induction steps generalizing r with
  | nil => exact ha
  | cons step steps ih =>
    cases step with
    | ask q => exact ih (free_serve hfree q) (armed_serve hfree ha q)
    | allot | transport | backend => exact ih hfree fun c hc => (ha c hc).of_kept rfl rfl rfl

/-- Wherever a run has come to, whatever failed on the way and whatever files there were, events are
handed to the console alone or to an armed chain, and to the console alone while there is no
configuration. -/
theorem handler_armed (config : RegistryConfig) (console : C) (transport : T) (files : Files)
    (steps : List (Step E Files)) :
    let r := run (new config console transport ({ files } : Tracing)) steps
    (r.output.handler = .console ∨ ∃ c, r.output.handler = .chain c ∧ r.Armed c) ∧
      (¬r.isConfigured → r.output.handler = .console) := by
  intro r
  have harmed : ∀ c, r.output.handler = .chain c → r.Armed c :=
    armed_run rfl (fun _ h => Handler.noConfusion h) steps
  cases hhandler : r.output.handler with
  | console => exact ⟨.inl rfl, fun _ => rfl⟩
  | chain c =>
    have hc := harmed c hhandler
    exact ⟨.inr ⟨c, rfl, hc⟩, fun hnone => absurd hc.configured hnone⟩

/-- A registry that comes up, goes down and then finds no memory, while a backend whose
configuration cannot be read is followed by one that needs none; and the other way round. -/
theorem handler_armed_in_turn :
    let start : Router (Console Transcript) Journal Tracing := new {} ⟨.raw, {}⟩ {} {}
    let up : List (Step Journal.Script Files) :=
      [.ask (.configure { backendConfig := some "" })]
    let down : List (Step Journal.Script Files) := [.ask (.shutdown .asEntered)]
    let starved : List (Step Journal.Script Files) :=
      [.allot { map := false }, .ask (.configure {})]
    let relieved : List (Step Journal.Script Files) := [.allot {}] ++ up
    let r := start.run (up ++ down ++ starved)
    let r' := start.run (starved ++ down ++ relieved)
    r.output.handler = .chain (.ofList [.console, .external]) ∧
      r.Armed (.ofList [.console, .external]) ∧
      r'.output.handler = .chain (.ofList [.console, .registry]) ∧
      r'.Armed (.ofList [.console, .registry]) := by
  intro start up down starved relieved r r'
  have harmed (steps : List (Step Journal.Script Files)) {c : Chain Subsystem}
      (hc : (start.run steps).output.handler = .chain c) : (start.run steps).Armed c := by
    obtain ⟨hconsole | ⟨c', hc', harmed⟩, -⟩ :=
      handler_armed {} (⟨.raw, {}⟩ : Console Transcript) ({} : Journal) {} steps
    · cases hc.symm.trans hconsole
    · cases hc.symm.trans hc'
      exact harmed
  have hr : r.output.handler = .chain (.ofList [.console, .external]) := by
    decide
  have hr' : r'.output.handler = .chain (.ofList [.console, .registry]) := by
    decide
  exact ⟨hr, harmed _ hr, hr', harmed _ hr'⟩

end Router

end LogRouting
