import LogRouting.Proofs.Router.Run
/-!
What a router publishes over a whole run, read off the requests alone. Which record goes out depends
on the handler, the threshold, the registry and the transport, and each of them is changed by
requests of its own; the first two are read off the history of the run here. Main statement:
`published_eq_routed`.
-/
namespace LogRouting.Router

def Request.severity? : Request → Option Severity
  | .configure o => o.severity
  | _ => none

/-- The requests of a run so far, the latest first, each with the registry it met. -/
abbrev History := List (Request × Registry)

namespace History

def routes (h : History) : Bool :=
  match h.find? (·.1.decides) with
  | some (.configure o, r) => o.registry && r.init.1.isOk
  | _ => false

def threshold (h : History) : Severity :=
  (h.findSome? (·.1.severity?)).getD .unset

@[simp] theorem routes_cons_configure (o : Options) (r : Registry) (h : History) :
    routes ((.configure o, r) :: h) = (o.registry && r.init.1.isOk) := rfl

@[simp] theorem routes_cons_shutdown (order : Registry.Order) (r : Registry) (h : History) :
    routes ((.shutdown order, r) :: h) = false := rfl

@[simp] theorem routes_cons_of_not_decides {q : Request} (hq : q.decides = false) (r : Registry)
    (h : History) : routes ((q, r) :: h) = h.routes := by
  simp [routes, hq]

@[simp] private theorem threshold_cons (q : Request) (r : Registry) (h : History) :
    threshold ((q, r) :: h) = q.severity?.getD h.threshold := by
  unfold threshold
  rw [List.findSome?_cons]
  cases q.severity? <;> rfl

end History

variable {C B F : Type}

/-- What a request is to publish after such a history: the record of a logged event, on behalf of
the owner that is registered for its logger. -/
def due (h : History) (r : Router C Journal B) : Request → List (OwnerId × Record)
  | .log e =>
    match r.registry.get? e.logger with
    | some row =>
      if h.routes && h.threshold ≤ e.severity && !r.stage.transport.failPublish then
        [(row.owner, .ofEvent e)]
      else []
    | none => []
  | _ => []

/-- What remains of the requests so far: a sound registry that is nobody's at the moment, a handler
that gives each event to the registry once or never, and a threshold. -/
structure Follows (h : History) (r : Router C Journal B) : Prop where
  sound : r.registry.Sound
  free : r.stage.registry.lease = .free
  shares : r.output.handler.shares = if h.routes then 1 else 0
  threshold : r.output.threshold = h.threshold

variable {r : Router C Journal B} {h : History}

private theorem follows_new (config : RegistryConfig) (console : C) (journal : Journal)
    (backend : B) :
    (new config console journal backend).Follows [] :=
  ⟨Registry.sound_of_down rfl, rfl, rfl, rfl⟩

private theorem published_log [Display C] [Backend B] (hf : r.Follows h) (e : Event) :
    (r.log e).2.stage.transport.published =
      r.stage.transport.published ++ due h r (.log e) := by
  have hservice := congrArg (·.transport.published) (service_log e r)
  refine hservice.trans ?_
  simp only [due, Output.isEnabledFor, hf.threshold, hf.shares]
  by_cases hsevere : h.threshold ≤ e.severity
  · cases hroutes : h.routes with
    | false => cases r.registry.get? e.logger <;> simp [hsevere]
    | true =>
      have hroute := (Registry.Service.journal_serve r.service (.route e)).1
      have hread : r.stage.registry.lease.mayRead := by
        rw [hf.free]
        rfl
      simp only [hsevere, decide_true, if_true, Function.iterate_one, Bool.true_and]
      refine hroute.trans ?_
      rw [Registry.Service.sent]
      cases hg : r.registry.get? e.logger with
      | none => simp
      | some row =>
        have hendpoint := hf.sound.endpoint_eq row (Registry.mem_of_get? hg)
        cases r.stage.transport.failPublish <;> simp [hread, hendpoint]
  · cases r.registry.get? e.logger <;> simp [hsevere]

variable [Display C] [Backend B]

theorem published_serve (hf : r.Follows h) (q : Request) :
    (r.serve q).stage.transport.published = r.stage.transport.published ++ due h r q := by
  have hone (q' : Registry.Request) (hrelayed : r.relayed q = [q']) (hsent : r.service.sent q' = [])
      (hdue : due h r q = []) :
      (r.serve q).stage.transport.published = r.stage.transport.published ++ due h r q := by
    have hservice := service_serve hf.free q
    rw [hrelayed] at hservice
    refine (congrArg (·.transport.published) hservice).trans ?_
    rw [hdue, ← hsent]
    exact (Registry.Service.journal_serve r.service q').1
  have hnone (hrelayed : r.relayed q = []) (hdue : due h r q = []) :
      (r.serve q).stage.transport.published = r.stage.transport.published ++ due h r q := by
    have hservice := service_serve hf.free q
    rw [hrelayed] at hservice
    rw [hdue, List.append_nil]
    exact congrArg (·.transport.published) hservice
  cases q with
  | log e => exact published_log hf e
  | configure o =>
    cases ho : o.registry with
    | false => exact hnone (by simp [relayed, ho]) rfl
    | true => exact hone .init (by simp [relayed, ho]) rfl rfl
  | shutdown order =>
    cases ho : r.asks (·.registry) with
    | false => exact hnone (by simp [relayed, ho]) rfl
    | true => exact hone (.fini order) (by simp [relayed, ho]) rfl rfl
  | register | unregister | acquire | release => exact hone _ rfl rfl rfl

theorem follows_serve (hf : r.Follows h) (q : Request) :
    (r.serve q).Follows ((q, r.registry) :: h) where
  sound := sound_serve hf.free hf.sound q
  free := free_serve hf.free q
  shares := by
    cases q with
    | configure o =>
      rw [History.routes_cons_configure]
      exact Stage.count_registry_bringUp hf.free o
    | shutdown order =>
      rw [History.routes_cons_shutdown, serve, output_shutdownIn]
      rfl
    | _ =>
      rw [History.routes_cons_of_not_decides rfl, (serve_of_not_decides hf.free rfl).1]
      exact hf.shares
  threshold := by
    rw [History.threshold_cons, ← hf.threshold]
    cases q with
    | configure o => rfl
    | shutdown order =>
      rw [serve, output_shutdownIn]
      rfl
    | _ =>
      rw [(serve_of_not_decides hf.free rfl).1]
      rfl

variable [Environment F B]

def routed (h : History) (r : Router C Journal B) :
    List (Step Journal.Script F) → List (OwnerId × Record)
  | [] => []
  | .ask q :: steps => due h r q ++ routed ((q, r.registry) :: h) (r.serve q) steps
  | c :: steps => routed h (r.step c) steps

theorem published_run (hf : r.Follows h) (steps : List (Step Journal.Script F)) :
    (r.run steps).stage.transport.published =
      r.stage.transport.published ++ routed h r steps := by
  induction steps generalizing r h with
  | nil => simp [routed]
  | cons c steps ih =>
    cases c with
    | ask q =>
      have hrest := ih (follows_serve hf q)
      rw [published_serve hf q, List.append_assoc] at hrest
      exact hrest
    | allot | transport | backend =>
      exact ih ⟨⟨hf.sound.names_nodup, hf.sound.key_eq, hf.sound.endpoint_eq⟩, hf.free, hf.shares,
        hf.threshold⟩

/-- A router publishes what its run is to publish, in the order of the requests and nothing else;
and wherever a run has come to, logging changes no registry, options, report or threshold. -/
theorem published_eq_routed (config : RegistryConfig) (console : C) (journal : Journal)
    (backend : B) (steps : List (Step Journal.Script F)) :
    let start := new config console journal backend
    let r := start.run steps
    r.stage.transport.published = journal.published ++ routed [] start steps ∧
      ∀ e : Event, (r.log e).2.stage.registry = r.stage.registry ∧
        (r.log e).2.options = r.options ∧ (r.log e).2.report = r.report ∧
        (r.log e).2.output = r.output := by
  intro start r
  refine ⟨published_run (follows_new config console journal backend) steps, fun e => ?_⟩
  have hlog := log_snd e r
  have hregistry := congrArg (·.registry) (service_log e r)
  refine ⟨hregistry.trans ?_, ?_, ?_, ?_⟩
  · split <;> rfl
  all_goals rw [hlog]

/-- Of three events two go out: one is less severe than the latest configuration allows, for a
configuration that gives no severity leaves that of the first in force. Once the allocator refuses a
map there is no registry to route to, until there is again. -/
theorem published_eq_routed_twice :
    let start : Router (Console Transcript) Journal Tracing := new {} ⟨.raw, {}⟩ {} {}
    let event (s : Severity) (message : String) : Event := ⟨s, "nav", 0, message, none⟩
    let nav : Owner := ⟨⟨7⟩, some "nav"⟩
    let steps : List (Step Journal.Script Files) :=
      [.allot { map := false }, .ask (.configure { severity := some .warn }), .ask (.register nav),
        .ask (.log (event .error "unheard")), .allot {}, .ask (.configure {}),
        .ask (.register nav), .ask (.log (event .info "low")), .ask (.log (event .error "stop")),
        .ask (.shutdown .asEntered), .ask (.log (event .fatal "late")), .ask (.configure {}),
        .ask (.acquire nav), .ask (.log (event .fatal "gone"))]
    let due : List (OwnerId × Record) :=
      [(⟨7⟩, .ofEvent (event .error "stop")), (⟨7⟩, .ofEvent (event .fatal "gone"))]
    routed [] start steps = due ∧ (start.run steps).stage.transport.published = due := by
  intro start event nav steps due
  have hrouted : routed [] start steps = due := by decide
  clear_value steps due
  obtain ⟨hpublished, -⟩ :=
    published_eq_routed {} (⟨.raw, {}⟩ : Console Transcript) {} ({} : Tracing) steps
  refine ⟨hrouted, hpublished.trans ?_⟩
  exact (List.nil_append _).trans hrouted

end LogRouting.Router
