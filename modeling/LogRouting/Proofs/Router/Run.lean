import LogRouting.Proofs.Registry.Run
import LogRouting.Proofs.Router.Outcome
/-!
Runs of a router: any requests in any order, with any options, while memory runs out and comes back
and whatever else happens happens to the transport and to the backend. As far as its registry is
concerned, a run of a router is a run of a registry. Main statement: `service_run`.
-/
namespace LogRouting

theorem Shared.eq_of_free {α : Type} {s : Shared α} (h : s.lease = .free) :
    s = ⟨s.value, .free⟩ := by
  rw [← h]

instance : Environment Files Tracing where
  happen files t := { t with files }

namespace Stage

variable {C T B : Type} [Transport T] {s : Stage C T B}

private theorem leaveRegistry_free (h : s.registry.lease = .free) (order : List String)
    (enabled : Bool) :
    s.leaveRegistry order enabled = if enabled then
      ((s.registry.value.finiIn order s.transport).1,
        { s with
          registry := ⟨(s.registry.value.finiIn order s.transport).2.1, .free⟩
          transport := (s.registry.value.finiIn order s.transport).2.2 })
      else (.ok (), s) := by
  cases enabled with
  | false => rfl
  | true =>
    rw [leaveRegistry, if_pos rfl, withRegistry_free h]
    rfl

end Stage

namespace Router

/-- A shutdown comes by the names of the registry in an order of its own. A guard may be one that
nobody made. -/
inductive Request where
  | configure (o : Options)
  | shutdown (order : Registry.Order)
  | register (o : Owner)
  | unregister (o : Owner)
  | acquire (o : Owner)
  | release (g : Guard)
  | log (e : Event)

/-- Whether a request may change the handler or the options in force. -/
def Request.decides : Request → Bool
  | .configure _ | .shutdown _ => true
  | _ => false

inductive Step (E F : Type) where
  | ask (q : Request)
  | allot (memory : Memory)
  | transport (e : E)
  | backend (f : F)

variable {C T B E F : Type}

abbrev registry (r : Router C T B) : Registry :=
  r.stage.registry.value

abbrev service (r : Router C T B) : Registry.Service T :=
  ⟨r.stage.registry, r.stage.transport⟩

def asks (r : Router C T B) (setting : Options → Bool) : Bool :=
  r.options.any setting

theorem asks_of_none {r : Router C T B} (h : r.options = none) (setting : Options → Bool) :
    ¬r.asks setting := by
  simp [asks, h]

theorem asks_of_some {r : Router C T B} {o : Options} (h : r.options = some o)
    (setting : Options → Bool) : r.asks setting = setting o := by
  simp [asks, h]

/-- What a request makes the router ask of its registry. -/
def relayed (r : Router C T B) : Request → List Registry.Request
  | .configure o => if o.registry then [.init] else []
  | .shutdown order => if r.asks (·.registry) then [.fini order] else []
  | .register o => [.register o]
  | .unregister o => [.unregister o]
  | .acquire o => [.acquire o]
  | .release g => [.release g]
  | .log e =>
    if r.output.isEnabledFor e.severity then
      List.replicate r.output.handler.shares (.route e)
    else []

def steps (r : Router C T B) : Step E F → List (Registry.Step E)
  | .ask q => (r.relayed q).map .ask
  | .allot memory => [.allot memory]
  | .transport e => [.happen e]
  | .backend _ => []

variable [Display C] [Transport T] [Backend B]

def serve (r : Router C T B) : Request → Router C T B
  | .configure o => (r.configure o).2
  | .shutdown order => (r.shutdownIn (order.arrange r.registry.names)).2
  | .register o => (r.register o).2
  | .unregister o => (r.unregister o).2
  | .acquire o => (r.acquire o).2
  | .release g => (r.release g).2
  | .log e => (r.log e).2

section
variable {r : Router C T B}

omit [Display C] [Transport T] [Backend B] in
private theorem service_onStage (h : r.stage.registry.lease = .free)
    (op : Registry → T → Except LogError Unit × Registry × T) :
    (r.onStage (·.withRegistry op)).2.service = (r.service.operate op).2 := by
  have hstage : (r.onStage (·.withRegistry op)).2.stage = (r.stage.withRegistry op).2 := rfl
  rw [service, hstage, Stage.withRegistry_free h]
  simp [Registry.Service.operate, h]

omit [Display C] [Transport T] in
theorem service_configure (h : r.stage.registry.lease = .free) (o : Options) :
    (r.configure o).2.service =
      ⟨if o.registry then ⟨r.registry.init.2, .free⟩ else r.stage.registry, r.stage.transport⟩ := by
  have hstage : (r.configure o).2.stage = (r.stage.bringUp o).2 := rfl
  rw [service, hstage, Stage.bringUp_frame h, Stage.withRegistryUp]
  cases o.registry <;> rfl

omit [Display C] in
theorem service_shutdownIn (h : r.stage.registry.lease = .free) (order : List String) :
    (r.shutdownIn order).2.service =
      if r.asks (·.registry) then (r.service.operate (·.finiIn order)).2 else r.service := by
  obtain ⟨ho, hstage⟩ | ⟨o, enabled, ho, hstage⟩ := stage_shutdownIn order r
  · rw [if_neg (asks_of_none ho _), service, hstage]
  · rw [service, hstage, Stage.leaveBackend_frame, Stage.leaveRegistry_free h, asks_of_some ho]
    cases o.registry with
    | false => rfl
    | true => simp [Registry.Service.operate, h]

theorem service_log (e : Event) (r : Router C T B) :
    (r.log e).2.service = if r.output.isEnabledFor e.severity then
        { r.service with
          transport := (Registry.route r.stage.registry e)^[r.output.handler.shares]
            r.stage.transport }
      else r.service := by
  have hhandled := Stage.handled r.output.handler e r.stage
  rw [service, log_snd]
  by_cases hpasses : r.output.isEnabledFor e.severity
  · simp only [hpasses, if_true, hhandled.registry, hhandled.transport]
  · simp only [hpasses, Bool.false_eq_true, if_false]

omit [Display C] [Backend B] in
private theorem served_routes (s : Registry.Service T) (e : Event) (times : Nat) :
    s.served (List.replicate times (.route e)) =
      { s with transport := (Registry.route s.registry e)^[times] s.transport } := by
  induction times generalizing s with
  | zero => rfl
  | succ times ih =>
    rw [Function.iterate_succ_apply]
    exact ih { s with transport := Registry.route s.registry e s.transport }

/-- While nobody has borrowed the registry, a request does to it what the router asks of it then,
and nothing else. -/
theorem service_serve (h : r.stage.registry.lease = .free) (q : Request) :
    (r.serve q).service = r.service.served (r.relayed q) := by
  cases q with
  | configure o =>
    refine (service_configure h o).trans ?_
    rw [relayed]
    cases o.registry with
    | false => rfl
    | true =>
      simp [Registry.Service.served, Registry.Service.serve, Registry.Service.operate, h]
  | shutdown order =>
    refine (service_shutdownIn h _).trans ?_
    rw [relayed]
    cases r.asks (·.registry) <;> rfl
  | register o => exact service_onStage h (·.register o)
  | unregister o => exact service_onStage h (·.unregister o)
  | acquire o => rfl
  | release g => rfl
  | log e =>
    refine (service_log e r).trans ?_
    rw [relayed]
    cases r.output.isEnabledFor e.severity with
    | false => rfl
    | true => exact (served_routes r.service e _).symm

@[simp] theorem free_serve (h : r.stage.registry.lease = .free) (q : Request) :
    (r.serve q).stage.registry.lease = .free := by
  refine (congrArg (·.registry.lease) (service_serve h q)).trans ?_
  refine Registry.Service.served_keeps (P := (·.registry.lease = .free)) h (fun s hs q' => ?_) _
  exact (congrArg (·.lease) (Registry.Service.serve_frame s q')).trans hs

theorem sound_serve [Transport.Faithful T] (h : r.stage.registry.lease = .free)
    (hs : r.registry.Sound) (q : Request) : (r.serve q).registry.Sound := by
  have hservice : (r.serve q).registry = (r.service.served (r.relayed q)).registry.value :=
    congrArg (·.registry.value) (service_serve h q)
  rw [hservice]
  exact Registry.Service.served_keeps (P := (·.registry.value.Sound)) hs
    (fun _ hs q' => Registry.Service.sound_serve hs q') _

theorem serve_of_not_decides (h : r.stage.registry.lease = .free) {q : Request}
    (hq : q.decides = false) :
    (r.serve q).output = r.output ∧ (r.serve q).options = r.options ∧
      (r.serve q).registry.isUp = r.registry.isUp := by
  have hone {q' : Registry.Request} (hrelayed : r.relayed q = [q']) (hq' : q'.moves = false) :
      (r.serve q).registry.isUp = r.registry.isUp := by
    have hservice := service_serve h q
    rw [hrelayed] at hservice
    refine (congrArg (·.registry.value.isUp) hservice).trans ?_
    exact Registry.Service.isUp_serve (s := r.service) hq'
  cases q with
  | configure | shutdown => cases hq
  | register | unregister | release => exact ⟨rfl, rfl, hone rfl rfl⟩
  | acquire o =>
    have hacquire := acquire_snd o r
    exact ⟨congrArg (·.output) hacquire, congrArg (·.options) hacquire, hone rfl rfl⟩
  | log e =>
    have hservice := service_log e r
    refine ⟨congrArg (·.output) (log_snd e r), congrArg (·.options) (log_snd e r), ?_⟩
    refine (congrArg (·.registry.value.isUp) hservice).trans ?_
    split <;> rfl

end

variable [Environment E T] [Environment F B]

def step (r : Router C T B) : Step E F → Router C T B
  | .ask q => r.serve q
  | .allot memory => r.allot memory
  | .transport e => { r with stage := { r.stage with
      transport := Environment.happen e r.stage.transport } }
  | .backend f => { r with stage := { r.stage with
      backend := { r.stage.backend with value := Environment.happen f r.stage.backend.value } } }

def run (r : Router C T B) (steps : List (Step E F)) : Router C T B :=
  steps.foldl step r

@[simp] theorem run_nil (r : Router C T B) : r.run ([] : List (Step E F)) = r := rfl

@[simp] theorem run_cons (r : Router C T B) (c : Step E F) (steps : List (Step E F)) :
    r.run (c :: steps) = (r.step c).run steps := rfl

@[simp] theorem run_append (r : Router C T B) (before after : List (Step E F)) :
    r.run (before ++ after) = (r.run before).run after :=
  List.foldl_append

def stepsOf (r : Router C T B) : List (Step E F) → List (Registry.Step E)
  | [] => []
  | c :: rest => r.steps c ++ (r.step c).stepsOf rest

section
variable {r : Router C T B}

theorem service_step (h : r.stage.registry.lease = .free) (c : Step E F) :
    (r.step c).service = r.service.run (r.steps c) := by
  cases c with
  | ask q =>
    rw [steps, Registry.Service.run_ask]
    exact service_serve h q
  | allot | transport | backend => rfl

@[simp] theorem free_step (h : r.stage.registry.lease = .free) (c : Step E F) :
    (r.step c).stage.registry.lease = .free := by
  cases c with
  | ask q => exact free_serve h q
  | allot | transport | backend => exact h

@[simp] theorem free_run (h : r.stage.registry.lease = .free) (steps : List (Step E F)) :
    (r.run steps).stage.registry.lease = .free := by
  induction steps generalizing r with
  | nil => exact h
  | cons c steps ih => exact ih (free_step h c)

/-- As far as the registry is concerned, a run of a router is a run of the registry. -/
theorem service_run (h : r.stage.registry.lease = .free) (steps : List (Step E F)) :
    (r.run steps).service = r.service.run (r.stepsOf steps) := by
  induction steps generalizing r with
  | nil => rfl
  | cons c steps ih =>
    rw [stepsOf, Registry.Service.run_append, ← service_step h]
    exact ih (free_step h c)

end

end Router

end LogRouting
