import LogRouting.Proofs.Router.Run
import Mathlib.Data.List.Induction
/-!
When a router does nothing for the owners it is given. What decides is whether the registry is up,
and not whether the options in force ask for it: a configuration without the registry leaves up what
an earlier one brought up. Main statement: `inert_iff_not_leftUp`.
-/
namespace LogRouting

namespace Registry

variable {D : Type} [Transport D] {r : Registry}

theorem register_of_down (h : r.isUp = false) (o : Owner) (d : D) :
    r.register o d = (.ok (), r, d) := by
  have hr : r.loggers = none := by simpa [isUp] using h
  simp [register, hr]

private theorem unregister_of_down (h : r.isUp = false) (o : Owner) (d : D) :
    r.unregister o d = (.ok (), r, d) := by
  have hr : r.loggers = none := by simpa [isUp] using h
  simp [unregister, hr]

private theorem register_ne_self (h : r.isUp) (o : Owner) (d : D) :
    r.register o d ≠ (.ok (), r, d) := by
  intro hregister
  have hcases := register_cases r o d
  generalize r.register o d = outcome at hcases hregister
  cases hcases with
  | down hr => simp [isUp, hr] at h
  | nameless | taken | refused | full => cases hregister
  | entered hr =>
    have hloggers := congrArg (·.2.1.loggers) hregister
    simp [hr] at hloggers

end Registry

namespace Router

variable {C T B : Type} [Transport T]

/-- Entering, leaving and guarding an owner succeed and change nothing, neither the registry nor the
transport. -/
structure Inert (r : Router C T B) (o : Owner) : Prop where
  register : r.register o = (.ok (), r)
  unregister : r.unregister o = (.ok (), r)
  acquire : r.acquire o = (.ok ⟨o.id, o.loggerName.getD ""⟩, r)

theorem inert_iff {r : Router C T B} (hfree : r.stage.registry.lease = .free) (o : Owner) :
    r.Inert o ↔ r.registry.isUp = false := by
  have hstage : { r.stage with registry := ⟨r.registry, .free⟩ } = r.stage := by
    rw [← Shared.eq_of_free hfree]
  constructor
  · intro hinert
    by_contra hup
    have hregister := congrArg (fun x => (x.1, x.2.registry, x.2.stage.transport)) hinert.register
    rw [register, onStage, Stage.withRegistry_free hfree] at hregister
    exact Registry.register_ne_self (by simpa using hup) o r.stage.transport hregister
  · intro hdown
    constructor
    · rw [register, onStage, Stage.withRegistry_free hfree, Registry.register_of_down hdown]
      exact congrArg (fun stage => (Except.ok (), { r with stage })) hstage
    · rw [unregister, onStage, Stage.withRegistry_free hfree, Registry.unregister_of_down hdown]
      exact congrArg (fun stage => (Except.ok (), { r with stage })) hstage
    · have hregister : Registry.exclusively (·.register o) r.stage.registry r.stage.transport =
          (.ok (), ⟨r.registry, .free⟩, r.stage.transport) := by
        rw [Registry.exclusively, hfree, Registry.register_of_down hdown]
        rfl
      rw [acquire, onStage, Guard.acquire, hregister]
      exact congrArg (fun stage => (Except.ok _, { r with stage })) hstage

def raises {E F : Type} (r : Router C T B) : Step E F → Bool
  | .ask (.configure o) => o.registry && r.registry.init.1.isOk
  | _ => false

def razes {E F : Type} (r : Router C T B) : Step E F → Bool
  | .ask (.shutdown order) =>
    r.asks (·.registry) &&
      (r.registry.finiIn (order.arrange r.registry.names) r.stage.transport).1.isOk
  | _ => false

variable [Display C] [Backend B] {E F : Type} [Environment E T] [Environment F B]

theorem isUp_step {r : Router C T B} (h : r.stage.registry.lease = .free) (c : Step E F) :
    (r.step c).registry.isUp = (r.raises c || (r.registry.isUp && !r.razes c)) := by
  have hkept (hup : (r.step c).registry.isUp = r.registry.isUp) (hraises : r.raises c = false)
      (hrazes : r.razes c = false) :
      (r.step c).registry.isUp = (r.raises c || (r.registry.isUp && !r.razes c)) := by
    simp [hup, hraises, hrazes]
  cases c with
  | allot | transport | backend => exact hkept rfl rfl rfl
  | ask q =>
    cases hq : q.decides with
    | false =>
      refine hkept (serve_of_not_decides h hq).2.2 ?_ ?_ <;> cases q <;> first | rfl | cases hq
    | true =>
      cases q with
      | configure o =>
        have hregistry : (r.step (.ask (.configure o) : Step E F)).registry = _ :=
          congrArg (·.registry.value) (service_configure h o)
        rw [hregistry]
        simp only [raises, razes]
        cases o.registry with
        | false => simp
        | true =>
          -- a registry that is up already is found up
          simp only [if_true, Registry.isUp_init]
          cases hup : r.registry.isUp with
          | false => simp
          | true => simp [Registry.isOk_init hup]
      | shutdown order =>
        have hregistry : (r.step (.ask (.shutdown order) : Step E F)).registry = _ :=
          congrArg (·.registry.value) (service_shutdownIn h (order.arrange r.registry.names))
        rw [hregistry]
        simp only [raises, razes]
        cases hasks : r.asks (·.registry) with
        | false => simp
        | true =>
          simp only [if_true, Bool.true_and, Bool.false_or]
          exact Registry.isUp_finiIn (order.covers _)
      | _ => cases hq

def spares (r : Router C T B) : List (Step E F) → Bool
  | [] => true
  | c :: steps => !r.razes c && (r.step c).spares steps

/-- A step of a run brought the registry up, or found it up, and nothing since took it down. -/
def LeftUp (start : Router C T B) (steps : List (Step E F)) : Prop :=
  ∃ before c after, steps = before ++ c :: after ∧
    (start.run before).raises c ∧ ((start.run before).step c).spares after

@[simp] theorem spares_concat (r : Router C T B) (steps : List (Step E F)) (c : Step E F) :
    r.spares (steps ++ [c]) = (r.spares steps && !(r.run steps).razes c) := by
  induction steps generalizing r with
  | nil => simp [spares, run]
  | cons first steps ih =>
    rw [List.cons_append, spares, ih, spares, Bool.and_assoc]
    rfl

theorem leftUp_concat (start : Router C T B) (steps : List (Step E F)) (c : Step E F) :
    start.LeftUp (steps ++ [c]) ↔ (start.run steps).raises c ∨
      start.LeftUp steps ∧ (start.run steps).razes c = false := by
  constructor
  · rintro ⟨before, raising, after, hsplit, hraises, hspares⟩
    rcases List.eq_nil_or_concat after with rfl | ⟨after, last, rfl⟩
    · obtain ⟨rfl, hlast⟩ := List.append_inj' hsplit rfl
      cases hlast
      exact .inl hraises
    · rw [List.concat_eq_append, ← List.cons_append, ← List.append_assoc] at hsplit
      obtain ⟨rfl, hlast⟩ := List.append_inj' hsplit rfl
      cases hlast
      rw [List.concat_eq_append, spares_concat, Bool.and_eq_true, Bool.not_eq_true'] at hspares
      refine .inr ⟨⟨before, raising, after, rfl, hraises, hspares.1⟩, ?_⟩
      rw [run_append]
      exact hspares.2
  · rintro (hraises | ⟨⟨before, raising, after, rfl, hraises, hspares⟩, hrazes⟩)
    · exact ⟨steps, c, [], rfl, hraises, rfl⟩
    · refine ⟨before, raising, after ++ [c], by simp, hraises, ?_⟩
      rw [run_append] at hrazes
      rw [spares_concat, hspares, Bool.true_and, Bool.not_eq_true']
      exact hrazes

theorem isUp_run {start : Router C T B} (hfree : start.stage.registry.lease = .free)
    (hdown : start.registry.isUp = false) (steps : List (Step E F)) :
    (start.run steps).registry.isUp ↔ start.LeftUp steps := by
  induction steps using List.reverseRecOn with
  | nil =>
    have hnever : ¬start.LeftUp [] := by
      rintro ⟨before, c, after, hsplit, -⟩
      exact absurd hsplit (by simp)
    simp [run, hdown, hnever]
  | append_singleton steps c ih =>
    rw [leftUp_concat, ← ih, run_append]
    change ((start.run steps).step c).registry.isUp ↔ _
    rw [isUp_step (free_run hfree steps) c]
    simp

theorem LeftUp.asked {start : Router C T B} {steps : List (Step E F)}
    (h : start.LeftUp steps) : ∃ o, .ask (.configure o) ∈ steps ∧ o.registry := by
  obtain ⟨before, c, after, rfl, hraises, -⟩ := h
  unfold raises at hraises
  split at hraises
  · rename_i o
    rw [Bool.and_eq_true] at hraises
    exact ⟨o, by simp, hraises.1⟩
  · cases hraises

/-- Wherever a run has come to, its router is inert to an owner unless the run left the registry up,
whatever the options in force ask for. A run that never asked for the registry did not. -/
theorem inert_iff_not_leftUp (config : RegistryConfig) (console : C) (transport : T) (backend : B)
    (steps : List (Step E F)) :
    let start := new config console transport backend
    let r := start.run steps
    (∀ o, r.Inert o ↔ ¬start.LeftUp steps) ∧
      ((∀ o, .ask (.configure o) ∈ steps → o.registry = false) → ∀ o, r.Inert o) := by
  intro start r
  have hfree : r.stage.registry.lease = .free := free_run rfl steps
  have hinert (o : Owner) : r.Inert o ↔ ¬start.LeftUp steps := by
    rw [inert_iff hfree, ← isUp_run rfl rfl steps, Bool.not_eq_true]
  refine ⟨hinert, fun hnever o => (hinert o).mpr fun hleft => ?_⟩
  obtain ⟨o, hmem, hasked⟩ := hleft.asked
  rw [hnever o hmem] at hasked
  cases hasked

/-- A configuration without the registry, after the one with it was shut down. -/
theorem inert_after_shutdown :
    let start : Router (Console Transcript) Journal Tracing := new {} ⟨.raw, {}⟩ {} {}
    let steps : List (Step Journal.Script Files) :=
      [.ask (.configure {}), .ask (.register ⟨⟨1⟩, some "nav"⟩), .ask (.shutdown .asEntered),
        .ask (.configure { registry := false })]
    ¬start.LeftUp steps ∧ (start.run steps).isConfigured ∧
      ∀ o, (start.run steps).Inert o := by
  intro start steps
  have hdown : (start.run steps).registry.isUp = false := by decide
  have hleft : ¬start.LeftUp steps := by
    rw [← isUp_run rfl rfl, hdown]
    decide
  have hinert := inert_iff_not_leftUp {} (⟨.raw, {}⟩ : Console Transcript) ({} : Journal)
    ({} : Tracing) steps
  exact ⟨hleft, by decide, fun o => (hinert.1 o).mpr hleft⟩

/-- A configuration without the registry, after one with it that was never shut down: an endpoint is
created for an owner, and destroyed again, as if the registry were asked for. -/
theorem not_inert_after_configure :
    let start : Router (Console Transcript) Journal Tracing := new {} ⟨.raw, {}⟩ {} {}
    let r := start.run [.ask (.configure {}), .ask (.configure { registry := false })]
    let nav : Owner := ⟨⟨1⟩, some "robot.nav"⟩
    let entered := (r.register nav).2
    r.options = some { registry := false } ∧ ¬r.Inert nav ∧
      r.stage.transport.createCalls = 0 ∧ entered.stage.transport.createCalls = 1 ∧
      (entered.unregister nav).2.stage.transport.destroyCalls = 1 := by
  intro start r nav entered
  have hcalls : entered.stage.transport.createCalls = 1 := by decide
  refine ⟨by decide, fun hinert => ?_, by decide, hcalls, by decide⟩
  have hsame : entered = r := congrArg Prod.snd hinert.register
  rw [hsame] at hcalls
  exact absurd hcalls (by decide)

end Router

end LogRouting
