import LogRouting.Proofs.Router.Outcome
/-!
Events that are logged one after another: each that is severe enough reaches the console and the
transport as often as the handler has them, and nothing else moves them. Guards that come and go,
and shutting down, leave the console alone, and of the transport what holds whatever endpoints come
and go. Main statement: `logged_all`.
-/
namespace LogRouting

variable {C T B : Type} [Display C] [Transport T]

def Output.passing {H : Type} (o : Output H) (es : List Event) : List Event :=
  es.filter (o.isEnabledFor ·.severity)

def Handler.shows : Handler → Nat
  | .console => 1
  | .chain c => c.sinks.count .console

def Display.shown (e : Event) (c : C) : C :=
  (Display.display e c).2

namespace Stage

variable [Backend B]

private theorem console_chain (sinks : List Subsystem) (e : Event) (s : Stage C T B) :
    (sinks.foldl (fun d x => (Sink.handle x e d).2) s).console =
      (Display.shown e)^[sinks.count .console] s.console := by
  induction sinks generalizing s with
  | nil => rfl
  | cons sink sinks ih =>
    rw [List.foldl_cons, ih]
    cases sink with
    | console =>
      rw [List.count_cons_self, Function.iterate_succ_apply]
      rfl
    | registry =>
      rw [List.count_cons_of_ne (by decide)]
      rfl
    | external =>
      have hframe : (s.forward e).2.console = s.console := by
        unfold forward
        split <;> rfl
      rw [List.count_cons_of_ne (by decide), ← hframe]
      rfl

private theorem console_handled (h : Handler) (e : Event) (s : Stage C T B) :
    (Sink.handle h e s).2.console = (Display.shown e)^[h.shows] s.console := by
  cases h with
  | console => rfl
  | chain c => exact console_chain c.sinks e s

end Stage

namespace Router

/-- What logging events comes to: those that are severe enough are handed on, in order. -/
structure Logged (es : List Event) (r r' : Router C T B) : Prop where
  output : r'.output = r.output
  registry : r'.stage.registry = r.stage.registry
  console : r'.stage.console = (r.output.passing es).foldl
    (fun c e => (Display.shown e)^[r.output.handler.shows] c) r.stage.console
  transport : r'.stage.transport = (r.output.passing es).foldl
    (fun t e => (Registry.route r.stage.registry e)^[r.output.handler.shares] t) r.stage.transport

theorem Logged.trans {es es' : List Event} {r r' r'' : Router C T B} (h : Logged es r r')
    (h' : Logged es' r' r'') : Logged (es ++ es') r r'' := by
  obtain ⟨houtput, hregistry, hconsole, htransport⟩ := h'
  rw [h.output] at houtput hconsole htransport
  rw [h.registry] at hregistry htransport
  rw [h.console] at hconsole
  rw [h.transport] at htransport
  constructor
  · exact houtput
  · exact hregistry
  · rw [Output.passing, List.filter_append, List.foldl_append]
    exact hconsole
  · rw [Output.passing, List.filter_append, List.foldl_append]
    exact htransport

variable [Backend B]

private theorem logged_one (e : Event) (r : Router C T B) : Logged [e] r (r.log e).2 := by
  rw [log_snd]
  by_cases h : r.output.isEnabledFor e.severity
  · have hpassing : r.output.passing [e] = [e] := by simp [Output.passing, h]
    obtain ⟨hregistry, htransport⟩ := Stage.handled r.output.handler e r.stage
    have hconsole := Stage.console_handled r.output.handler e r.stage
    simp only [h, if_true]
    exact ⟨rfl, hregistry, by rw [hpassing]; exact hconsole, by rw [hpassing]; exact htransport⟩
  · have hpassing : r.output.passing [e] = [] := by simp [Output.passing, h]
    simp only [h, Bool.false_eq_true, if_false]
    exact ⟨rfl, rfl, by rw [hpassing]; rfl, by rw [hpassing]; rfl⟩

theorem logged_all (es : List Event) (r : Router C T B) :
    Logged es r (es.foldl (fun r e => (r.log e).2) r) := by
  induction es generalizing r with
  | nil => exact ⟨rfl, rfl, rfl, rfl⟩
  | cons e es ih => exact (logged_one e r).trans (ih (r.log e).2)

end Router

end LogRouting

namespace LogRouting

variable {C T B : Type} [Transport T] {P : T → Prop}

omit [Transport T] in
theorem Registry.exclusively_keeps {s : Shared Registry} {d : T}
    {op : Registry → T → Except LogError Unit × Registry × T} (hd : P d)
    (hop : P (op s.value d).2.2) : P (exclusively op s d).2.2 := by
  unfold exclusively
  split
  · exact hop
  · exact hd

namespace Stage

theorem leaveRegistry_keeps (hP : Registry.Keeps P) {order : List String} {s : Stage C T B}
    (ho : s.registry.value.names ⊆ order) (enabled : Bool) (hs : P s.transport) :
    (s.leaveRegistry order enabled).2.console = s.console ∧
      P (s.leaveRegistry order enabled).2.transport := by
  cases enabled with
  | false => exact ⟨rfl, hs⟩
  | true => exact ⟨rfl, Registry.exclusively_keeps hs (hP.finiIn ho hs)⟩

end Stage

namespace Router

theorem acquire_keeps (hP : Registry.Keeps P) (o : Owner) {r : Router C T B}
    (hr : P r.stage.transport) : P (r.acquire o).2.stage.transport := by
  have htransport : (r.acquire o).2.stage.transport =
      (Registry.exclusively (·.register o) r.stage.registry r.stage.transport).2.2 :=
    congrArg Prod.snd (Registry.acquire_snd o r.stage.registry r.stage.transport)
  rw [htransport]
  exact Registry.exclusively_keeps hr (hP.register o hr)

theorem release_keeps (hP : Registry.Keeps P) (g : Guard) {r : Router C T B}
    (hr : P r.stage.transport) :
    (r.release g).2.stage.console = r.stage.console ∧ P (r.release g).2.stage.transport := by
  have htransport : P (Registry.exclusively (·.unregister g.owner) r.stage.registry
      r.stage.transport).2.2 := Registry.exclusively_keeps hr (hP.unregister g.owner hr)
  exact ⟨rfl, htransport⟩

theorem shutdown_keeps [Backend B] (hP : Registry.Keeps P) {r : Router C T B}
    (hr : P r.stage.transport) :
    r.shutdown.2.stage.console = r.stage.console ∧ P r.shutdown.2.stage.transport := by
  unfold shutdown
  obtain ⟨-, hstage⟩ | ⟨o, enabled, -, hstage⟩ :=
    stage_shutdownIn r.stage.registry.value.names r
  · rw [hstage]
    exact ⟨rfl, hr⟩
  · rw [hstage, Stage.leaveBackend_frame]
    exact Stage.leaveRegistry_keeps hP (List.Subset.refl _) o.registry hr

end Router

end LogRouting
