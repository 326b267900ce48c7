import LogRouting.Proofs.Console
import LogRouting.Proofs.Json
import LogRouting.Proofs.Relay.Input
import LogRouting.Proofs.Router.Logging
import LogRouting.Proofs.Transport.Appending
/-!
A whole run of the relay. From bringing up to shutting down the events of the input alone move the
console, and they alone add to the file. Main statement: `run_delivers`.
-/
namespace LogRouting

theorem Console.shown_all (enabled : Bool) (es : List Event) (c : Console Transcript) :
    (es.foldl (fun c e => (Display.shown e)^[if enabled then 1 else 0] c) c).writer.taken.toList =
      c.writer.taken.toList ++ if enabled then c.format.bytes es else [] := by
  have hshown (e : Event) (c : Console Transcript) : Display.shown e c =
      { c with writer := ⟨c.writer.taken ++ c.format.line e⟩ } :=
    Option.get_of_eq_some _ (handle_transcript e c)
  induction es generalizing c with
  | nil => cases enabled <;> simp
  | cons e es ih =>
    rw [List.foldl_cons, ih]
    cases enabled with
    | false => rfl
    | true =>
      rw [if_pos rfl, Function.iterate_one, hshown]
      simp

end LogRouting

namespace LogRouting.Relay

def newRegistry (c : Config) (memory : Memory) : Registry :=
  { config := c.registry, memory }

def registryUp (c : Config) (memory : Memory) : Bool :=
  c.logging.registry && (newRegistry c memory).init.1.isOk

def kept (c : Config) (es : List Event) : List Event :=
  es.filter fun e => c.logging.severity.all (· ≤ e.severity)

def publishedBytes (endpoint : Endpoint) (es : List Event) : List UInt8 :=
  es.flatMap fun e => utf8 (JsonLines.line endpoint (.ofEvent e))

/-! Bringing up -/

structure Configured (c : Config) (memory : Memory) (r : StandardRouter) : Prop where
  threshold : r.output.threshold = c.logging.severity.getD .unset
  shows : r.output.handler.shows = if c.logging.console then 1 else 0
  shares : r.output.handler.shares = if registryUp c memory then 1 else 0
  console : r.stage.console = ⟨.ofText c.console.format, {}⟩

private theorem init_newRegistry (c : Config) (memory : Memory) :
    (newRegistry c memory).init.2 = { newRegistry c memory with
      loggers := if (newRegistry c memory).init.1.isOk then some [] else none } := by
  have hcases := Registry.init_cases (newRegistry c memory)
  generalize (newRegistry c memory).init = outcome at hcases ⊢
  cases hcases with
  | kept hup => cases hup
  | refused | raised => rfl

theorem configured_bringUp (c : Config) (memory : Memory) (t : JsonLines) (files : Files) :
    Configured c memory (bringUp c memory t files) ∧
      (bringUp c memory t files).stage.transport = t ∧
      (bringUp c memory t files).stage.registry =
        ⟨{ newRegistry c memory with
          loggers := if registryUp c memory then some [] else none }, .free⟩ := by
  let s : Stage (Console Transcript) JsonLines Tracing :=
    ⟨⟨.ofText c.console.format, {}⟩, ⟨newRegistry c memory, .free⟩, t, ⟨{ files }, .free⟩⟩
  have hstage : (bringUp c memory t files).stage = (s.bringUp c.logging).2 := rfl
  have hhandler : (bringUp c memory t files).output.handler =
      .chain (Attempts.chain (s.bringUp c.logging).1) := rfl
  have hframe := Stage.bringUp_frame (s := s) rfl c.logging
  have hregistry : (s.withRegistryUp c.logging).registry = ⟨{ newRegistry c memory with
      loggers := if registryUp c memory then some [] else none }, .free⟩ := by
    unfold Stage.withRegistryUp registryUp
    cases c.logging.registry with
    | false => rfl
    | true => exact congrArg (Shared.mk · .free) (init_newRegistry c memory)
  have hrest : (s.withRegistryUp c.logging).console = s.console ∧
      (s.withRegistryUp c.logging).transport = t := by
    unfold Stage.withRegistryUp
    split <;> exact ⟨rfl, rfl⟩
  refine ⟨⟨rfl, ?_, ?_, ?_⟩, ?_, ?_⟩
  · rw [hhandler]
    exact Stage.count_console_bringUp rfl c.logging
  · rw [hhandler]
    exact Stage.count_registry_bringUp rfl c.logging
  · rw [hstage, hframe]
    exact hrest.1
  · rw [hstage, hframe]
    exact hrest.2
  · rw [hstage, hframe]
    exact hregistry

/-! Registering -/

/-- The node's registration, once the configuration was brought up. -/
def registration (s : Settings) (c : Config) (m : Conditions) (t : JsonLines) :
    Except LogError Guard × StandardRouter :=
  (bringUp c m.memory t t.files).acquire s.node.owner

structure Registered (c : Config) (memory : Memory) (n : Node) (r : StandardRouter) : Prop
    extends Configured c memory r where
  free : r.stage.registry.lease = .free
  row : r.stage.registry.value.get? (n.loggerName.getD "") =
    if registryUp c memory then
      some ⟨⟨n.loggerName.getD "", n.id, ⟨n.id, c.registry.topic⟩⟩, n.loggerName.getD ""⟩
    else none

private theorem get?_registered {r : Registry} {up : Bool} {o : Owner} {t : JsonLines}
    (hup : r.loggers = if up then some [] else none) (h : (r.register o t).1 = .ok ()) :
    (r.register o t).2.1.get? (o.loggerName.getD "") =
      if up then
        some ⟨⟨o.loggerName.getD "", o.id, ⟨o.id, r.config.topic⟩⟩, o.loggerName.getD ""⟩
      else none := by
  cases up with
  | false => simp [Registry.register, hup, Registry.get?, Registry.rows]
  | true =>
    have hcases := Registry.register_cases r o t
    generalize Registry.register r o t = outcome at h hcases ⊢
    cases hcases with
    | down hr =>
      rw [hr] at hup
      cases hup
    | @entered rows name endpoint t' hr ho hn hc hl =>
      rw [hr] at hup
      cases hup
      have hendpoint := Transport.Faithful.create_eq hc
      have hname : o.loggerName.getD "" = name := by
        rw [(Owner.usableName_eq_some.mp ho).1]
        rfl
      rw [hname, hendpoint]
      simp [Registry.get?]
    | _ => cases h

theorem registered_registration {s : Settings} {c : Config} {m : Conditions} {t : JsonLines}
    {g : Guard} (h : (registration s c m t).1 = .ok g) :
    Registered c m.memory s.node (registration s c m t).2 ∧
      g.name = s.node.loggerName.getD "" := by
  obtain ⟨hconfigured, htransport, hregistry⟩ := configured_bringUp c m.memory t t.files
  let r := bringUp c m.memory t t.files
  have hguard : (Guard.acquire s.node.owner r.stage.registry r.stage.transport).1 = .ok g := h
  obtain ⟨hok, hg⟩ := Registry.acquire_ok hguard
  have hshared : (registration s c m t).2.stage.registry = (Registry.exclusively
      (·.register s.node.owner) r.stage.registry r.stage.transport).2.1 :=
    congrArg Prod.fst (Registry.acquire_snd s.node.owner _ _)
  rw [hregistry] at hok hshared
  refine ⟨⟨⟨hconfigured.threshold, hconfigured.shows, hconfigured.shares, hconfigured.console⟩,
    ?_, ?_⟩, by rw [hg]; rfl⟩
  · rw [hshared]
    rfl
  · rw [hshared]
    exact get?_registered rfl hok

/-! Logging -/

theorem passing_eq {c : Config} {o : Output Handler}
    (h : o.threshold = c.logging.severity.getD .unset) (es : List Event) :
    o.passing es = kept c es := by
  have hunset : ∀ s : Severity, Severity.unset ≤ s := by
    intro s
    cases s <;> decide
  refine List.filter_congr fun e _ => ?_
  rw [Output.isEnabledFor, h]
  cases c.logging.severity with
  | none => exact decide_eq_true (hunset e.severity)
  | some severity => rfl

private theorem logger_inputEvents {logger : String} {here : Location} {clock : Nat → Int64}
    {stdin : List UInt8} {e : Event} (h : e ∈ inputEvents logger here clock stdin) :
    e.logger = logger := by
  obtain ⟨t, -, rfl⟩ := List.mem_map.mp h
  rfl

section
variable {base : Files} {p : Place} {bytes : List UInt8} {logger : String}
  {registry : Shared Registry} {row : Row} {es : List Event} {t : JsonLines}

theorem published_all (hfree : registry.lease = .free)
    (hrow : registry.value.get? logger = some row) (hes : ∀ e ∈ es, e.logger = logger)
    (ht : JsonLines.Filed base p bytes t) :
    JsonLines.Filed base p (bytes ++ publishedBytes row.endpoint es)
      (es.foldl (fun t e => Registry.route registry e t) t) := by
  induction es generalizing bytes t with
  | nil =>
    rw [publishedBytes, List.flatMap_nil, List.append_nil]
    exact ht
  | cons e es ih =>
    have hroute : Registry.route registry e t =
        (Transport.publish row.endpoint (.ofEvent e) t).2 := by
      rw [Registry.route, hfree, hes e List.mem_cons_self, hrow]
      rfl
    have hpublished := (ht.publish row.endpoint (.ofEvent e)).2.1
    rw [List.foldl_cons, hroute, publishedBytes, List.flatMap_cons, ← List.append_assoc]
    exact ih (fun x hx => hes x (List.mem_cons_of_mem e hx)) hpublished

theorem published_if {up : Bool} (hfree : registry.lease = .free)
    (hrow : registry.value.get? logger = if up then some row else none)
    (hes : ∀ e ∈ es, e.logger = logger) (ht : JsonLines.Filed base p bytes t) :
    JsonLines.Filed base p (bytes ++ if up then publishedBytes row.endpoint es else [])
      (es.foldl (fun t e => (Registry.route registry e)^[if up then 1 else 0] t) t) := by
  cases up with
  | true => exact published_all hfree hrow hes ht
  | false =>
    have hnothing : bytes ++ (if false then publishedBytes row.endpoint es else []) = bytes :=
      List.append_nil bytes
    have hsame : es.foldl (fun t e => (Registry.route registry e)^[if false then 1 else 0] t) t =
        t := List.foldl_fixed es
    rwa [hnothing, hsame]

end

/-! Finishing -/

theorem finish_keeps {P : JsonLines → Prop} (hP : Registry.Keeps P) {s : Session}
    (hs : P s.router.stage.transport) :
    s.finish.2.stage.console = s.router.stage.console ∧ P s.finish.2.stage.transport := by
  have hreleased := Router.release_keeps hP s.guard hs
  unfold Session.finish
  rcases hrelease : s.router.release s.guard with ⟨released, r⟩
  rw [hrelease] at hreleased
  have hshut := Router.shutdown_keeps hP hreleased.2
  dsimp only at hshut ⊢
  split
  · exact hreleased
  · cases released with
    | error e => exact hreleased
    | ok u =>
      rcases hdown : r.shutdown with ⟨_ | _, r'⟩
      · rw [hdown] at hshut
        exact ⟨hshut.1.trans hreleased.1, hshut.2⟩
      · rw [hdown] at hshut
        exact ⟨hshut.1.trans hreleased.1, hshut.2⟩

/-! The run -/

def delivered (s : Settings) (c : Config) (m : Conditions) (stdin : List UInt8) : List Event :=
  kept c (inputEvents (s.node.loggerName.getD "") m.here m.clock stdin)

/-- What a run publishes while the registry is up. -/
def publishedBy (s : Settings) (c : Config) (m : Conditions) (stdin : List UInt8) : List UInt8 :=
  if registryUp c m.memory then
    publishedBytes ⟨s.node.id, c.registry.topic⟩ (delivered s c m stdin)
  else []

section
variable {s : Settings} {c : Config} {m : Conditions} (stdin : List UInt8) {t : JsonLines}
  {g : Guard}

theorem relay_eq {lines : List (List UInt8)} (h : (registration s c m t).1 = .ok g) :
    relay s c m lines t =
      let session := Session.feedAll m.clock lines ⟨(registration s c m t).2, g, m.here, false⟩
      .ofRouter s session.finish.1 session.finish.2 := by
  have hacquire : (bringUp c m.memory t t.files).acquire s.node.owner =
      (.ok g, (registration s c m t).2) := Prod.ext h rfl
  rw [relay, hacquire]

theorem logged_session (h : (registration s c m t).1 = .ok g) :
    Router.Logged (inputEvents (s.node.loggerName.getD "") m.here m.clock stdin)
      (registration s c m t).2
      (Session.feedAll m.clock (lines stdin) ⟨(registration s c m t).2, g, m.here, false⟩).router
      := by
  rw [(Session.feedAll_input m.clock stdin rfl).1, ← (registered_registration h).2]
  exact Router.logged_all _ _

theorem stdout_relay (h : (registration s c m t).1 = .ok g) :
    (relay s c m (lines stdin) t).stdout.toList =
      if c.logging.console then
        (ConsoleFormat.ofText c.console.format).bytes (delivered s c m stdin)
      else [] := by
  have hr := (registered_registration h).1
  have hlogged := (logged_session stdin h).console
  have hany : Registry.Keeps fun _ : JsonLines => True :=
    ⟨fun _ _ => trivial, fun _ _ => trivial⟩
  have hfinish := (finish_keeps hany (s := Session.feedAll m.clock (lines stdin)
    ⟨(registration s c m t).2, g, m.here, false⟩) trivial).1
  rw [relay_eq h, Outcome.ofRouter]
  dsimp only
  rw [hfinish, hlogged, passing_eq hr.threshold, hr.shows, Console.shown_all, hr.console]
  rfl

theorem filed_relay {base : Files} {p : Place} {bytes : List UInt8}
    (h : (registration s c m t).1 = .ok g) (ht : JsonLines.Filed base p bytes t) :
    (relay s c m (lines stdin) t).files.node? p =
        some (.file (bytes ++ publishedBy s c m stdin)) ∧
      ∀ q, q ≠ p → (relay s c m (lines stdin) t).files.node? q = base.node? q := by
  have hr := (registered_registration h).1
  have hlogged := (logged_session stdin h).transport
  have hopened : JsonLines.Filed base p bytes (bringUp c m.memory t t.files).stage.transport := by
    rwa [(configured_bringUp c m.memory t t.files).2.1]
  have hacquired := Router.acquire_keeps (JsonLines.keeps_filed base p bytes) s.node.owner hopened
  have hloggers : ∀ e ∈ delivered s c m stdin, e.logger = s.node.loggerName.getD "" :=
    fun e he => logger_inputEvents (List.mem_filter.mp he).1
  have hpublished := published_if hr.free hr.row hloggers hacquired
  rw [passing_eq hr.threshold, hr.shares] at hlogged
  have hfinish := (finish_keeps (JsonLines.keeps_filed base p _) (s := Session.feedAll m.clock
    (lines stdin) ⟨(registration s c m t).2, g, m.here, false⟩) (hlogged ▸ hpublished)).2
  rw [relay_eq h, Outcome.ofRouter]
  exact hfinish.close

end

/-- A run whose output file opens and whose node registers. The events that the input says are shown
in order if the console is enabled. If the file takes bytes they are also added to it, a line each,
if the registry comes up; nothing else is written to any file. What is shown depends on the input
and on what concerns the console, not on the registry, the backend, the memory or the files. -/
theorem run_delivers {s : Settings} {c : Config} {files : Files} {m : Conditions}
    {stdin : List UInt8} {t : JsonLines} {g : Guard} (hprint : s.printConfig = false)
    (hopen : JsonLines.ofPath s.output files = .ok t)
    (hregistered : (registration s c m t).1 = .ok g) :
    (runWith s c files m stdin).stdout.toList =
        (if c.logging.console then
          (ConsoleFormat.ofText c.console.format).bytes (delivered s c m stdin)
        else []) ∧
      (t.files.node? t.spool.place ≠ some .fullDevice →
        (runWith s c files m stdin).files.bytes? s.output =
            some (files.content t.spool.place ++ publishedBy s c m stdin) ∧
          (∀ bytes, files.bytes? s.output = some bytes →
            files.content t.spool.place = bytes) ∧
          ∀ q, q ≠ t.spool.place →
            (runWith s c files m stdin).files.content q = files.content q) ∧
      (∀ e ∈ delivered s c m stdin, ∃ text,
        JsonLines.line ⟨s.node.id, c.registry.topic⟩ (.ofEvent e) = text ++ ['\n'] ∧
          '\n' ∉ text) ∧
      ∀ (c' : Config) (files' : Files) (memory' : Memory) (t' : JsonLines) (g' : Guard),
        c'.logging.console = c.logging.console → c'.logging.severity = c.logging.severity →
        c'.console = c.console → JsonLines.ofPath s.output files' = .ok t' →
        (registration s c' { m with memory := memory' } t').1 = .ok g' →
        (runWith s c' files' { m with memory := memory' } stdin).stdout =
          (runWith s c files m stdin).stdout := by
  have hrun : ∀ {c : Config} {files : Files} {m : Conditions} {t : JsonLines},
      JsonLines.ofPath s.output files = .ok t →
      runWith s c files m stdin = relay s c m (lines stdin) t := by
    intro c files m t hopen
    rw [runWith, if_neg (by simp [hprint]), hopen]
  refine ⟨?_, fun hplace => ?_, fun e _ => JsonLines.newline_not_mem_line _ _, ?_⟩
  · rw [hrun hopen]
    exact stdout_relay stdin hregistered
  · obtain ⟨hopened, hfiled, -⟩ := JsonLines.filed_opened hopen hplace
    obtain ⟨hnode, helsewhere⟩ := filed_relay stdin hregistered hfiled
    -- the path of the file still leads there once it was written to
    have hdirectory : ∀ q, t.files.node? q = some .directory →
        (relay s c m (lines stdin) t).files.node? q = some .directory := by
      intro q hq
      rw [helsewhere q ?_, hq]
      rintro rfl
      obtain ⟨content, hcontent, -⟩ := hfiled.written
      rw [hcontent] at hq
      cases hq
    rw [hrun hopen]
    refine ⟨?_, fun bytes => hopened.content_of_bytes?, fun q hq => ?_⟩
    · exact Files.bytes?_of_locate? (Files.locate?_mono hdirectory hopened.located) hnode
        hopened.no_directory
    · rw [Files.content, helsewhere q hq, ← Files.content, hopened.extended.content_eq]
  · intro c' files' memory' t' g' hconsole hseverity hformat hopen' hregistered'
    rw [← Array.toList_inj, hrun hopen, hrun hopen', stdout_relay stdin hregistered,
      stdout_relay stdin hregistered', hconsole, hformat, delivered, delivered, kept, kept,
      hseverity]

/-- One line is a warning, one is blank, and one is not severe enough; the file held a byte that is
no text. -/
theorem run_delivers_warning :
    let s : Settings := { output := "a" }
    let c : Config := { logging := { severity := some .warn }, console := ⟨"raw"⟩ }
    let m : Conditions := { clock := fun _ => 0, here := ⟨"main", "relay", 159⟩ }
    let files : Files := ⟨[(["a"], .file [0xff])]⟩
    let stdin := "WARN: hot\r\n\nfine\n".toUTF8.data.toList
    ∃ t g, JsonLines.ofPath s.output files = .ok t ∧ (registration s c m t).1 = .ok g ∧
      t.files.node? t.spool.place ≠ some .fullDevice ∧
      (runWith s c files m stdin).stdout.toList = utf8 "hot\n".toList ∧
      (runWith s c files m stdin).files.bytes? "a" = some (0xff :: utf8
        ("\x7b\"topic\":\"rosout\",\"owner\":1,\"stamp\":\x7b\"sec\":0,\"nanosec\":0\x7d," ++
          "\"level\":30,\"name\":\"relay\",\"msg\":\"hot\",\"file\":\"main\"," ++
          "\"function\":\"relay\",\"line\":159\x7d\n").toList) := by
  intro s c m files stdin
  have hopen : JsonLines.ofPath s.output files = .ok { files, spool := { place := ["a"] } } := by
    decide +kernel
  have hregistered : (registration s c m { files, spool := { place := ["a"] } }).1 =
      .ok ⟨⟨1⟩, "relay"⟩ := by decide +kernel
  obtain ⟨hstdout, hfile, -⟩ := @run_delivers s c files m stdin _ _ rfl hopen hregistered
  obtain ⟨hbytes, -⟩ := hfile (by decide)
  refine ⟨_, _, hopen, hregistered, by decide, hstdout.trans ?_, hbytes.trans ?_⟩
  · decide +kernel
  · decide +kernel

end LogRouting.Relay
