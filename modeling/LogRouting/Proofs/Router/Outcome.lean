import LogRouting.Proofs.Registry.Outcome
import LogRouting.Router
import Mathlib.Logic.Function.Iterate
/-!
What bringing up the subsystems of a stage comes to, whoever has borrowed its registry or its
backend; and what configuring, shutting down and logging come to for a router. Main statements:
`Stage.bringUp_attempts`, `Router.shutdownIn_cases`.
-/
namespace LogRouting

theorem Attempts.chain_sinks {attempts : List Attempt} (h : attempts.length ≤ Chain.capacity) :
    (Attempts.chain attempts).sinks = (attempts.filter (·.attached)).map (·.subsystem) := by
  apply List.take_of_length_le
  rw [List.length_map]
  exact Nat.le_trans (List.length_filter_le _ _) h

def Shared.initOutcome (r : Shared Registry) : Except LogError Unit :=
  if r.lease.mayWrite then r.value.init.1 else .error .registryBusy

def Shared.initialised (r : Shared Registry) : Shared Registry :=
  if r.lease.mayWrite then { r with value := r.value.init.2 } else r

@[simp] theorem Shared.initOutcome_free {r : Shared Registry} (h : r.lease = .free) :
    r.initOutcome = r.value.init.1 := by
  rw [initOutcome, h]
  rfl

@[simp] private theorem Shared.initialised_free {r : Shared Registry} (h : r.lease = .free) :
    r.initialised = ⟨r.value.init.2, .free⟩ := by
  rw [initialised, h]
  rfl

@[simp] theorem Shared.rows_initialised (r : Shared Registry) :
    r.initialised.value.rows = r.value.rows := by
  unfold initialised
  split
  · exact Registry.rows_init r.value
  · rfl

namespace Options

variable {B : Type} [Backend B] (o : Options) (b : Shared B)

def startOutcome : Except LogError Unit :=
  if b.lease.mayWrite then (Backend.start o.backendConfig b.value).1.mapError .backend
  else .error backendBusy

def started : B :=
  if b.lease.mayWrite then (Backend.start o.backendConfig b.value).2 else b.value

/-- What the backend comes to on the whole: it is to be started, and to have its level set if the
options give a severity. -/
def externalOutcome : Except LogError Unit :=
  match o.startOutcome b with
  | .error e => .error e
  | .ok () =>
    match o.severity with
    | none => .ok ()
    | some severity => (Backend.setLevel none severity (o.started b)).1.mapError .backend

def levelled : B :=
  match o.severity with
  | some severity =>
    if (o.startOutcome b).isOk then (Backend.setLevel none severity (o.started b)).2
    else o.started b
  | none => o.started b

end Options

namespace Stage

section
variable {C T B : Type} {s s' : Stage C T B}

theorem withRegistry_of_mayWrite (h : s.registry.lease.mayWrite)
    (op : Registry → T → Except LogError Unit × Registry × T) :
    s.withRegistry op = ((op s.registry.value s.transport).1,
      { s with
        registry := ⟨(op s.registry.value s.transport).2.1, s.registry.lease⟩
        transport := (op s.registry.value s.transport).2.2 }) := by
  unfold withRegistry Registry.exclusively
  simp [h]

theorem withRegistry_of_lent (h : ¬s.registry.lease.mayWrite)
    (op : Registry → T → Except LogError Unit × Registry × T) :
    s.withRegistry op = (.error .registryBusy, s) := by
  unfold withRegistry Registry.exclusively
  simp [h]

theorem withBackend_of_mayWrite (h : s.backend.lease.mayWrite)
    (op : B → Except BackendError Unit × B) : s.withBackend op =
      ((op s.backend.value).1.mapError .backend,
        { s with backend := ⟨(op s.backend.value).2, s.backend.lease⟩ }) := by
  rw [withBackend, if_pos h]

theorem withBackend_fst (h : s'.backend = s.backend) (op : B → Except BackendError Unit × B) :
    (s'.withBackend op).1 = (s.withBackend op).1 := by
  unfold withBackend
  rw [h]
  split <;> rfl

end

variable {C T B : Type} [Backend B] (s : Stage C T B) (o : Options)

omit [Backend B] in
private theorem bringUpRegistry_eq : s.bringUpRegistry =
    (⟨.registry, s.registry.initOutcome.isOk, s.registry.initOutcome⟩,
      { s with registry := s.registry.initialised }) := by
  unfold bringUpRegistry withRegistry Registry.exclusively Shared.initOutcome Shared.initialised
  by_cases h : s.registry.lease.mayWrite
  · simp [h]
  · simp [h]

theorem bringUpExternal_eq : s.bringUpExternal o =
    (⟨.external, (o.startOutcome s.backend).isOk, o.externalOutcome s.backend⟩,
      { s with backend := { s.backend with value := o.levelled s.backend } }) := by
  unfold Options.externalOutcome Options.levelled Options.startOutcome Options.started
  by_cases h : s.backend.lease.mayWrite
  · rw [bringUpExternal, withBackend_of_mayWrite h]
    simp only [h, if_true]
    rcases Backend.start o.backendConfig s.backend.value with ⟨e | ⟨⟩, b⟩
    · cases o.severity <;> rfl
    · cases o.severity with
      | none => rfl
      | some severity =>
        have hstarted : ({ s with backend := ⟨b, s.backend.lease⟩ } :
          Stage C T B).backend.lease.mayWrite := h
        dsimp only [Except.mapError]
        rw [withBackend_of_mayWrite hstarted]
        rfl
  · rw [bringUpExternal, withBackend, if_neg h]
    simp only [h, Bool.false_eq_true, if_false]
    cases o.severity <;> rfl

/-- The attempts of a configuration, each with its own outcome. -/
def attempts : List Attempt :=
  (if o.console then [⟨.console, true, .ok ()⟩] else []) ++
    (if o.registry then
      [⟨.registry, s.registry.initOutcome.isOk, s.registry.initOutcome⟩] else []) ++
    (if o.external then
      [⟨.external, (o.startOutcome s.backend).isOk, o.externalOutcome s.backend⟩] else [])

theorem outcomes_attempts : (Attempts.report (s.attempts o)).outcomes =
    (if o.console then [(.console, .ok)] else []) ++
      (if o.registry then [(.registry, .ofResult s.registry.initOutcome)] else []) ++
      (if o.external then [(.external, .ofResult (o.externalOutcome s.backend))] else []) := by
  simp only [Attempts.report, attempts, List.map_append]
  cases o.console <;> cases o.registry <;> cases o.external <;> rfl

theorem sinks_attempts : (Attempts.chain (s.attempts o)).sinks =
    (if o.console then [.console] else []) ++
      (if o.registry && s.registry.initOutcome.isOk then [.registry] else []) ++
      (if o.external && (o.startOutcome s.backend).isOk then [.external] else []) := by
  have hfits : (s.attempts o).length ≤ Chain.capacity := by
    unfold attempts
    cases o.console <;> cases o.registry <;> cases o.external <;> simp [Chain.capacity]
  rw [Attempts.chain_sinks hfits]
  simp only [attempts, List.filter_append, List.map_append]
  congr 1
  · congr 1
    · cases o.console <;> rfl
    · cases o.registry <;> cases s.registry.initOutcome.isOk <;> rfl
  · cases o.external <;> cases (o.startOutcome s.backend).isOk <;> rfl

theorem bringUp_attempts : s.bringUp o =
    (s.attempts o,
      { s with
        registry := if o.registry then s.registry.initialised else s.registry
        backend := { s.backend with
          value := if o.external then o.levelled s.backend else s.backend.value } }) := by
  have hconsole : attempt o.console bringUpConsole ([], s) =
      (if o.console then [⟨.console, true, .ok ()⟩] else [], s) := by
    cases o.console <;> rfl
  have hregistry (before : List Attempt) : attempt o.registry bringUpRegistry (before, s) =
      (before ++ if o.registry then
          [⟨.registry, s.registry.initOutcome.isOk, s.registry.initOutcome⟩] else [],
        { s with registry := if o.registry then s.registry.initialised else s.registry }) := by
    rw [attempt, bringUpRegistry_eq]
    cases o.registry <;> simp
  unfold bringUp attempts
  rw [hconsole, hregistry, attempt, bringUpExternal_eq]
  cases o.external <;> simp

end Stage


variable {C T B : Type}

namespace Stage

variable {s : Stage C T B}

theorem withRegistry_free (h : s.registry.lease = .free)
    (op : Registry → T → Except LogError Unit × Registry × T) :
    s.withRegistry op = ((op s.registry.value s.transport).1,
      { s with
        registry := ⟨(op s.registry.value s.transport).2.1, .free⟩
        transport := (op s.registry.value s.transport).2.2 }) := by
  rw [withRegistry_of_mayWrite (by rw [h]; rfl), h]

theorem withRegistry_ok {s' : Stage C T B}
    {op : Registry → T → Except LogError Unit × Registry × T}
    (h : s.withRegistry op = (.ok (), s')) :
    op s.registry.value s.transport = (.ok (), s'.registry.value, s'.transport) := by
  by_cases hw : s.registry.lease.mayWrite
  · rw [withRegistry_of_mayWrite hw, Prod.mk.injEq] at h
    obtain ⟨hok, rfl⟩ := h
    exact Prod.ext hok rfl
  · rw [withRegistry_of_lent hw] at h
    cases h

theorem withBackend_frame (op : B → Except BackendError Unit × B) :
    (s.withBackend op).2 = { s with backend := (s.withBackend op).2.backend } := by
  unfold withBackend
  split <;> rfl

theorem withBackend_ok {s' : Stage C T B} {op : B → Except BackendError Unit × B}
    (h : s.withBackend op = (.ok (), s')) :
    op s.backend.value = (.ok (), s'.backend.value) := by
  unfold withBackend at h
  split at h
  · rcases hop : op s.backend.value with ⟨e | ⟨⟩, b⟩
    · rw [hop] at h
      cases h
    · rw [hop] at h
      cases h
      rfl
  · cases h

def leaveRegistry [Transport T] (order : List String) (enabled : Bool) (s : Stage C T B) :
    Except LogError Unit × Stage C T B :=
  if enabled then s.withRegistry (·.finiIn order) else (.ok (), s)

@[simp] theorem backend_leaveRegistry [Transport T] (order : List String) (enabled : Bool)
    (s : Stage C T B) : (s.leaveRegistry order enabled).2.backend = s.backend := by
  cases enabled <;> rfl

theorem leaveRegistry_ok [Transport T] {s' : Stage C T B} {order : List String} {enabled : Bool}
    (ho : s.registry.value.names ⊆ order) (h : s.leaveRegistry order enabled = (.ok (), s')) :
    if enabled then s'.registry.value.isUp = false else s' = s := by
  cases enabled with
  | false => exact (congrArg Prod.snd h).symm
  | true =>
    rw [leaveRegistry, if_pos rfl] at h
    have hfini := withRegistry_ok h
    have hdown := Registry.finiIn_ok ho (congrArg Prod.fst hfini)
    rwa [hfini] at hdown

def leaveBackend [Backend B] (enabled : Bool) (s : Stage C T B) :
    Except LogError Unit × Stage C T B :=
  if enabled then s.withBackend Backend.shutdown else (.ok (), s)

theorem leaveBackend_frame [Backend B] (enabled : Bool) (s : Stage C T B) :
    (s.leaveBackend enabled).2 = { s with backend := (s.leaveBackend enabled).2.backend } := by
  cases enabled with
  | false => rfl
  | true => exact withBackend_frame Backend.shutdown

section
variable [Backend B]

def withRegistryUp (o : Options) (s : Stage C T B) : Stage C T B :=
  if o.registry then { s with registry := ⟨s.registry.value.init.2, .free⟩ } else s

theorem bringUp_eq (h : s.registry.lease = .free) (o : Options) :
    s.bringUp o =
      ((if o.console then [⟨.console, true, .ok ()⟩] else []) ++
        (if o.registry then
          [⟨.registry, s.registry.value.init.1.isOk, s.registry.value.init.1⟩] else []) ++
        (if o.external then [((s.withRegistryUp o).bringUpExternal o).1] else []),
        if o.external then ((s.withRegistryUp o).bringUpExternal o).2 else s.withRegistryUp o) := by
  rw [bringUp_attempts, attempts, Shared.initOutcome_free h, Shared.initialised_free h,
    bringUpExternal_eq, withRegistryUp]
  cases o.registry <;> cases o.external <;> rfl

theorem bringUp_frame (h : s.registry.lease = .free) (o : Options) :
    (s.bringUp o).2 = { s.withRegistryUp o with backend := (s.bringUp o).2.backend } := by
  rw [bringUp_eq h]
  cases o.external with
  | false => rfl
  | true =>
    rw [if_pos rfl, bringUpExternal_eq]
    rfl

/-- Events are handed to what was asked for and came up, in this order. -/
theorem sinks_bringUp (h : s.registry.lease = .free) (o : Options) :
    (Attempts.chain (s.bringUp o).1).sinks =
      (if o.console then [.console] else []) ++
        (if o.registry && s.registry.value.init.1.isOk then [.registry] else []) ++
        (if o.external && ((s.withRegistryUp o).bringUpExternal o).1.attached then [.external]
          else []) := by
  rw [bringUp_attempts, sinks_attempts, Shared.initOutcome_free h, bringUpExternal_eq,
    withRegistryUp]
  cases o.registry <;> rfl

theorem count_console_bringUp (h : s.registry.lease = .free) (o : Options) :
    (Attempts.chain (s.bringUp o).1).sinks.count .console = if o.console then 1 else 0 := by
  rw [sinks_bringUp h]
  cases o.console <;> cases o.registry && s.registry.value.init.1.isOk <;>
    cases o.external && ((s.withRegistryUp o).bringUpExternal o).1.attached <;> rfl

theorem count_registry_bringUp (h : s.registry.lease = .free) (o : Options) :
    (Attempts.chain (s.bringUp o).1).sinks.count .registry =
      if o.registry && s.registry.value.init.1.isOk then 1 else 0 := by
  rw [sinks_bringUp h]
  cases o.console <;> cases o.registry && s.registry.value.init.1.isOk <;>
    cases o.external && ((s.withRegistryUp o).bringUpExternal o).1.attached <;> rfl

end

end Stage

def Handler.shares : Handler → Nat
  | .console => 0
  | .chain c => c.sinks.count .registry

namespace Stage

variable [Display C] [Transport T] [Backend B]

/-- What handling an event leaves of a stage: the registry is as before, and its transport has been
asked to publish the event so many times. -/
structure Handled (e : Event) (times : Nat) (s s' : Stage C T B) : Prop where
  registry : s'.registry = s.registry
  transport : s'.transport = (Registry.route s.registry e)^[times] s.transport

private theorem handled_chain (sinks : List Subsystem) (e : Event) (s : Stage C T B) :
    Handled e (sinks.count .registry) s (sinks.foldl (fun d x => (Sink.handle x e d).2) s) := by
  induction sinks generalizing s with
  | nil => exact ⟨rfl, rfl⟩
  | cons sink sinks ih =>
    obtain ⟨hregistry, htransport⟩ := ih (Sink.handle sink e s).2
    rw [List.foldl_cons]
    cases sink with
    | console =>
      refine ⟨hregistry, ?_⟩
      rw [List.count_cons_of_ne (by decide)]
      exact htransport
    | registry =>
      refine ⟨hregistry, ?_⟩
      rw [htransport, List.count_cons_self, Function.iterate_succ_apply]
      rfl
    | external =>
      have hframe : (Sink.handle Subsystem.external e s).2.registry = s.registry ∧
          (Sink.handle Subsystem.external e s).2.transport = s.transport := by
        change (s.forward e).2.registry = _ ∧ (s.forward e).2.transport = _
        unfold forward
        split <;> exact ⟨rfl, rfl⟩
      rw [hframe.1] at hregistry htransport
      rw [hframe.2] at htransport
      refine ⟨hregistry, ?_⟩
      rw [List.count_cons_of_ne (by decide)]
      exact htransport

theorem handled (h : Handler) (e : Event) (s : Stage C T B) :
    Handled e h.shares s (Sink.handle h e s).2 := by
  cases h with
  | console => exact ⟨rfl, rfl⟩
  | chain c => exact handled_chain c.sinks e s

end Stage

namespace Router

variable [Transport T] [Backend B]

theorem log_snd [Display C] (e : Event) (r : Router C T B) :
    (r.log e).2 = { r with
      stage := if r.output.isEnabledFor e.severity then (Sink.handle r.output.handler e r.stage).2
        else r.stage } := by
  unfold log Output.log
  by_cases h : r.output.isEnabledFor e.severity
  · simp only [h, if_true]
  · simp only [h, Bool.false_eq_true, if_false]

inductive ShuttingDown (order : List String) (r : Router C T B) :
    Except LogError Unit × Router C T B → Prop where
  | unconfigured (ho : r.options = none) : ShuttingDown order r (.ok (), r.install .console)
  | stopped {o : Options} {e : LogError} {s : Stage C T B} (ho : r.options = some o)
      (hr : r.stage.leaveRegistry order o.registry = (.error e, s)) :
      ShuttingDown order r (.error e, { r.install .console with stage := s })
  | stuck {o : Options} {e : LogError} {s s' : Stage C T B} (ho : r.options = some o)
      (hr : r.stage.leaveRegistry order o.registry = (.ok (), s))
      (hb : s.leaveBackend o.external = (.error e, s')) :
      ShuttingDown order r (.error e, { r.install .console with stage := s' })
  | done {o : Options} {s s' : Stage C T B} (ho : r.options = some o)
      (hr : r.stage.leaveRegistry order o.registry = (.ok (), s))
      (hb : s.leaveBackend o.external = (.ok (), s')) :
      ShuttingDown order r (.ok (), { r.install .console with stage := s', options := none })

theorem shutdownIn_cases (order : List String) (r : Router C T B) :
    ShuttingDown order r (r.shutdownIn order) := by
  have hregistry (o : Options) :
      (if o.registry then (r.install .console).onStage (·.withRegistry (·.finiIn order))
        else (.ok (), r.install .console)) =
      ((r.stage.leaveRegistry order o.registry).1,
        { r.install .console with stage := (r.stage.leaveRegistry order o.registry).2 }) := by
    cases o.registry <;> rfl
  have hbackend (o : Options) (r : Router C T B) :
      (if o.external then r.onStage (·.withBackend Backend.shutdown) else (.ok (), r)) =
      ((r.stage.leaveBackend o.external).1,
        { r with stage := (r.stage.leaveBackend o.external).2 }) := by
    cases o.external <;> rfl
  have hoptions : (r.install .console).options = r.options := rfl
  unfold shutdownIn
  dsimp only
  rw [hoptions]
  cases ho : r.options with
  | none => exact .unconfigured ho
  | some o =>
    dsimp only
    rw [hregistry]
    rcases hr : r.stage.leaveRegistry order o.registry with ⟨e | ⟨⟩, s⟩
    · exact .stopped ho hr
    · dsimp only
      rw [hbackend]
      dsimp only
      rcases hb : s.leaveBackend o.external with ⟨e | ⟨⟩, s'⟩
      · exact .stuck ho hr hb
      · exact .done ho hr hb

/-- What shutting down makes of the stage. A backend that is not reached counts as not enabled. -/
theorem stage_shutdownIn (order : List String) (r : Router C T B) :
    r.options = none ∧ (r.shutdownIn order).2.stage = r.stage ∨
      ∃ o enabled, r.options = some o ∧ (r.shutdownIn order).2.stage =
        ((r.stage.leaveRegistry order o.registry).2.leaveBackend enabled).2 := by
  have hcases := shutdownIn_cases order r
  generalize r.shutdownIn order = outcome at hcases ⊢
  cases hcases with
  | unconfigured ho => exact .inl ⟨ho, rfl⟩
  | @stopped o e s ho hr =>
    refine .inr ⟨o, false, ho, ?_⟩
    rw [hr]
    rfl
  | @stuck o e s s' ho hr hb =>
    refine .inr ⟨o, o.external, ho, ?_⟩
    rw [hr, hb]
  | @done o s s' ho hr hb =>
    refine .inr ⟨o, o.external, ho, ?_⟩
    rw [hr, hb]

@[simp] theorem output_shutdownIn (order : List String) (r : Router C T B) :
    (r.shutdownIn order).2.output = ⟨.console, r.output.threshold⟩ := by
  have hcases := shutdownIn_cases order r
  generalize r.shutdownIn order = outcome at hcases ⊢
  cases hcases with
  | unconfigured | stopped | stuck | done => rfl

omit [Backend B] in
@[simp] theorem acquire_snd (o : Owner) (r : Router C T B) : (r.acquire o).2 = (r.register o).2 :=
  congrArg (fun x : Shared Registry × T =>
    { r with stage := { r.stage with registry := x.1, transport := x.2 } })
    (Registry.acquire_snd o r.stage.registry r.stage.transport)

end Router

end LogRouting
