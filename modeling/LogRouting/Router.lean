import LogRouting.Backend
import LogRouting.Console
import LogRouting.Registry
/-!
A router owns the registry and the external backend, and decides what events are handed to. While
it is not configured that is the console alone. To configure it brings up what the options ask for
and hands events to whatever came up; to shut down it goes back to the console first.
-/
namespace LogRouting

/-- What the sinks of a router act on: a console `C`, the registry over a transport `T`, and a
backend `B`. -/
structure Stage (C T B : Type) where
  console : C
  registry : Shared Registry
  transport : T
  backend : Shared B

/-- Unconfigured, the console is the only handler. -/
inductive Handler where
  | console
  | chain (sinks : Chain Subsystem)
  deriving DecidableEq, Repr, Inhabited

/-- One subsystem's share in a configuration. It may fail and be attached nevertheless. -/
structure Attempt where
  subsystem : Subsystem
  attached : Bool
  result : Except LogError Unit

namespace Attempts

def chain (attempts : List Attempt) : Chain Subsystem :=
  .ofList ((attempts.filter (·.attached)).map (·.subsystem))

def report (attempts : List Attempt) : Report where
  outcomes := attempts.map fun a => (a.subsystem, .ofResult a.result)

def result (attempts : List Attempt) : Except LogError Unit :=
  attempts.foldl (fun last a =>
    match a.result with
    | .ok () => last
    | .error e => .error e) (.ok ())

end Attempts

def backendBusy : LogError :=
  .backend (.start "external backend is already borrowed")

namespace Stage

variable {C T B : Type} [Display C] [Transport T] [Backend B]

def withRegistry (op : Registry → T → Except LogError Unit × Registry × T) (s : Stage C T B) :
    Except LogError Unit × Stage C T B :=
  let (result, registry, transport) := Registry.exclusively op s.registry s.transport
  (result, { s with registry, transport })

def withBackend (op : B → Except BackendError Unit × B) (s : Stage C T B) :
    Except LogError Unit × Stage C T B :=
  if s.backend.lease.mayWrite then
    let (result, b) := op s.backend.value
    (result.mapError .backend, { s with backend := { s.backend with value := b } })
  else (.error backendBusy, s)

def display (e : Event) (s : Stage C T B) : Completion × Stage C T B :=
  let (done, console) := Display.display e s.console
  (done, { s with console })

def publish (e : Event) (s : Stage C T B) : Stage C T B :=
  { s with transport := Registry.route s.registry e s.transport }

/-- While someone changes the backend the event is dropped. -/
def forward (e : Event) (s : Stage C T B) : Completion × Stage C T B :=
  if s.backend.lease.mayRead then
    let (done, b) := Backend.forward e.severity e.logger e.message s.backend.value
    (done, { s with backend := { s.backend with value := b } })
  else (.returned, s)

instance : Sink Subsystem (Stage C T B) where
  handle
    | .console, e, s => s.display e
    | .registry, e, s => (.returned, s.publish e)
    | .external, e, s => s.forward e

instance : Sink Handler (Stage C T B) where
  handle
    | .console, e, s => s.display e
    | .chain c, e, s => Sink.handle c e s

def bringUpConsole (s : Stage C T B) : Attempt × Stage C T B :=
  (⟨.console, true, .ok ()⟩, s)

def bringUpRegistry (s : Stage C T B) : Attempt × Stage C T B :=
  let (result, s) := s.withRegistry fun r d => let (result, r) := r.init; (result, r, d)
  (⟨.registry, result.isOk, result⟩, s)

/-- A backend that is up is attached even if its level cannot be set. -/
def bringUpExternal (o : Options) (s : Stage C T B) : Attempt × Stage C T B :=
  match s.withBackend (Backend.start o.backendConfig) with
  | (.error e, s) => (⟨.external, false, .error e⟩, s)
  | (.ok (), s) =>
    match o.severity with
    | none => (⟨.external, true, .ok ()⟩, s)
    | some severity =>
      let (result, s) := s.withBackend (Backend.setLevel none severity)
      (⟨.external, true, result⟩, s)

def attempt (enabled : Bool) (step : Stage C T B → Attempt × Stage C T B)
    (run : List Attempt × Stage C T B) : List Attempt × Stage C T B :=
  if enabled then
    let (a, s) := step run.2
    (run.1 ++ [a], s)
  else run

def bringUp (o : Options) (s : Stage C T B) : List Attempt × Stage C T B :=
  attempt o.external (bringUpExternal o)
    (attempt o.registry bringUpRegistry (attempt o.console bringUpConsole ([], s)))

end Stage

/-- `options` are those of the active configuration, `report` is that of the last one. -/
structure Router (C T B : Type) where
  stage : Stage C T B
  output : Output Handler := ⟨.console, .unset⟩
  options : Option Options := none
  report : Report := {}

namespace Router

variable {C T B : Type}

def new (config : RegistryConfig) (console : C) (transport : T) (backend : B) :
    Router C T B where
  stage := { console, registry := ⟨{ config }, .free⟩, transport, backend := ⟨backend, .free⟩ }

def allot (memory : Memory) (r : Router C T B) : Router C T B :=
  { r with stage := { r.stage with registry := { r.stage.registry with
      value := r.stage.registry.value.allot memory } } }

def isConfigured (r : Router C T B) : Bool :=
  r.options.isSome

def handlerName (r : Router C T B) : String :=
  match r.output.handler with
  | .console => Console.name
  | .chain _ => Chain.name

def install (h : Handler) (r : Router C T B) : Router C T B :=
  { r with output := (r.output.install h).2 }

variable [Display C] [Transport T] [Backend B]

def log (e : Event) (r : Router C T B) : Completion × Router C T B :=
  let (done, stage) := r.output.log e r.stage
  (done, { r with stage })

/-- Brings up what the options enable and hands events to all that came up. The last failure is
returned, but the configuration stands. -/
def configure (o : Options) (r : Router C T B) : Except LogError Unit × Router C T B :=
  let (attempts, stage) := r.stage.bringUp o
  (Attempts.result attempts, {
    stage
    output := ⟨.chain (Attempts.chain attempts), o.severity.getD r.output.threshold⟩
    options := some o
    report := Attempts.report attempts })

def onStage {α : Type} (op : Stage C T B → α × Stage C T B) (r : Router C T B) :
    α × Router C T B :=
  let (a, stage) := op r.stage
  (a, { r with stage })

/-- Takes the registry, in a given order of its names, and then the backend down, so far as they
were enabled. The first failure is returned and leaves the router configured. -/
def shutdownIn (order : List String) (r : Router C T B) : Except LogError Unit × Router C T B :=
  let r := r.install .console
  match r.options with
  | none => (.ok (), r)
  | some o =>
    match if o.registry then r.onStage (·.withRegistry (·.finiIn order)) else (.ok (), r) with
    | (.error e, r) => (.error e, r)
    | (.ok (), r) =>
      match if o.external then r.onStage (·.withBackend Backend.shutdown) else (.ok (), r) with
      | (.error e, r) => (.error e, r)
      | (.ok (), r) => (.ok (), { r with options := none })

def shutdown (r : Router C T B) : Except LogError Unit × Router C T B :=
  r.shutdownIn r.stage.registry.value.names

def register (o : Owner) : Router C T B → Except LogError Unit × Router C T B :=
  onStage (·.withRegistry (·.register o))

def unregister (o : Owner) : Router C T B → Except LogError Unit × Router C T B :=
  onStage (·.withRegistry (·.unregister o))

def acquire (o : Owner) : Router C T B → Except LogError Guard × Router C T B :=
  onStage fun s =>
    let (result, registry, transport) := Guard.acquire o s.registry s.transport
    (result, { s with registry, transport })

def release (g : Guard) : Router C T B → Except LogError Unit × Router C T B :=
  onStage fun s =>
    let (result, registry, transport) := g.release s.registry s.transport
    (result, { s with registry, transport })

end Router

end LogRouting
