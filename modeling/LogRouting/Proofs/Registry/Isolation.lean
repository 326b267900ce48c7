import LogRouting.Proofs.Registry.Atomicity
import LogRouting.Proofs.Registry.Run
/-!
Loggers keep out of each other's way. While its transport does what it is asked to and there is no
limit, all that a registry does for one logger follows from the requests that concern this logger,
so that the others need not have been made. Main statement: `Service.isolated_by_name`.
-/
namespace LogRouting

/-- A transport that does all it is asked to, from a state that is `ready`; `sent` tells what was
published, and on whose behalf. -/
structure Transport.Reliable {D : Type} [Transport D] (ready : D → Prop)
    (sent : D → List (OwnerId × Record)) : Prop where
  create {d : D} (hd : ready d) (owner : OwnerId) (topic : String) :
    ∃ d', Transport.create owner topic d = (.ok ⟨owner, topic⟩, d') ∧ ready d' ∧ sent d' = sent d
  destroy {d : D} (hd : ready d) (owner : OwnerId) (e : Endpoint) :
    ∃ d', Transport.destroy owner e d = (.ok (), d') ∧ ready d' ∧ sent d' = sent d
  publish {d : D} (hd : ready d) (e : Endpoint) (r : Record) :
    ∃ d', Transport.publish e r d = (.ok (), d') ∧ ready d' ∧ sent d' = sent d ++ [(e.owner, r)]

def Journal.Smooth (j : Journal) : Prop :=
  j.failCreateOn = none ∧ j.failDestroyOn = none ∧ j.failPublish = false

theorem Journal.reliable : Transport.Reliable Journal.Smooth (·.published) where
  create hj owner topic := ⟨_, create_of_smooth hj.1 owner topic, hj, rfl⟩
  destroy hj owner e := ⟨_, destroy_of_smooth hj.2.1 owner e, hj, rfl⟩
  publish {j} hj e r := by
    refine ⟨{ j with published := j.published ++ [(e.owner, r)] }, ?_, hj, rfl⟩
    change Journal.publish e r j = _
    simp [Journal.publish, hj.2.2]

namespace Registry

def Request.concerns (name : String) : Request → Bool
  | init | fini _ => true
  | register o | unregister o | acquire o => o.loggerName = some name
  | release g => g.name = name
  | route e => e.logger = name

/-- What a registry has to do with one logger. -/
structure Share where
  config : RegistryConfig
  memory : Memory
  up : Bool
  row : Option Row
  published : List (OwnerId × Record)
  deriving DecidableEq, Repr

/-!
A share changes like a registry that knows but one logger and has no limit.
-/
namespace Share

def init (h : Share) : Except LogError Unit × Share :=
  if h.up then (.ok (), h)
  else match ({ config := h.config, memory := h.memory } : Registry).noMap? with
    | some e => (.error e, h)
    | none => (.ok (), { h with up := true })

def fini (h : Share) : Except LogError Unit × Share :=
  (.ok (), { h with up := false, row := none })

def register (name : String) (id : OwnerId) (h : Share) : Except LogError Unit × Share :=
  if !h.up then (.ok (), h)
  else if name = "" then (.error (nameless id), h)
  else if h.row.isSome then (.error (.alreadyInit name), h)
  else if h.memory.entry then
    (.ok (), { h with row := some ⟨⟨name, id, ⟨id, h.config.topic⟩⟩, name⟩ })
  else (.error (noRoom "grow" refused), h)

def unregister (name : String) (id : OwnerId) (h : Share) : Except LogError Unit × Share :=
  if !h.up then (.ok (), h)
  else if name = "" then (.error (.unresolvedOwner id), h)
  else if h.row.any (·.owner = id) then (.ok (), { h with row := none })
  else (.error (.notInit name), h)

def route (e : Event) (h : Share) : Share :=
  { h with published := h.published ++ h.row.toList.map fun x => (x.endpoint.owner, .ofEvent e) }

def serve (name : String) (h : Share) : Request → Except LogError Unit × Share
  | .init => h.init
  | .fini _ => h.fini
  | .register o | .acquire o => h.register name o.id
  | .unregister o => h.unregister name o.id
  | .release g => h.unregister name g.id
  | .route e => (.ok (), h.route e)

end Share

section
variable {D : Type} [Transport D] {ready : D → Prop} {sent : D → List (OwnerId × Record)}
  {r : Registry} {d : D} {o : Owner} {name : String}

def share (sent : D → List (OwnerId × Record)) (name : String) (r : Registry) (d : D) : Share where
  config := r.config
  memory := r.memory
  up := r.isUp
  row := r.get? name
  published := (sent d).filter (·.2.name = name)

omit [Transport D] in
private theorem eq_of_usableName {name' : String} (ho : o.loggerName = some name)
    (h : o.usableName = some name') : name = name' ∧ name ≠ "" := by
  obtain ⟨hname, hne⟩ := Owner.usableName_eq_some.mp h
  cases ho.symm.trans hname
  exact ⟨rfl, hne⟩

omit [Transport D] in
private theorem share_init (sent : D → List (OwnerId × Record)) (name : String) (r : Registry)
    (d : D) :
    (r.init.1, share sent name r.init.2 d) = (share sent name r d).init := by
  have hsame : ({ config := r.config, memory := r.memory } : Registry).noMap? = r.noMap? := rfl
  have hcases := init_cases r
  generalize r.init = outcome at hcases ⊢
  cases hcases with
  | kept hup => simp [Share.init, share, hup]
  | refused hr hm => simp [Share.init, share, isUp, hr, hsame, hm]
  | raised hr hm => simp [Share.init, share, isUp, get?, rows_of_down hr, hr, hsame, hm]

theorem route_free (r : Registry) (e : Event) (d : D) :
    route ⟨r, .free⟩ e d = match r.get? e.logger with
      | some row => (Transport.publish row.endpoint (.ofEvent e) d).2
      | none => d := by
  unfold route
  rfl

theorem reliable_keeps (hD : Transport.Reliable ready sent) (published : List (OwnerId × Record)) :
    Keeps fun d => ready d ∧ sent d = published where
  create {owner topic d d' result} hd h := by
    obtain ⟨d'', hcreate, hready, hsent⟩ := hD.create hd.1 owner topic
    rw [hcreate, Prod.mk.injEq] at h
    rw [← h.2]
    exact ⟨hready, hsent.trans hd.2⟩
  destroy {owner e d d' result} hd h := by
    obtain ⟨d'', hdestroy, hready, hsent⟩ := hD.destroy hd.1 owner e
    rw [hdestroy, Prod.mk.injEq] at h
    rw [← h.2]
    exact ⟨hready, hsent.trans hd.2⟩

private theorem dismantling_ok (hD : Transport.Reliable ready sent) {es es' : List Row} {d d' : D}
    {result : Except TransportError Unit} (hd : ready d) (h : Dismantling es d result es' d') :
    result = .ok () := by
  induction h with
  | done => rfl
  | resisted _ hdestroy =>
    obtain ⟨d'', hok, -⟩ := hD.destroy hd _ _
    rw [hok] at hdestroy
    cases hdestroy
  | destroyed _ hdestroy _ ih =>
    obtain ⟨d'', hok, hready, -⟩ := hD.destroy hd _ _
    rw [hok, Prod.mk.injEq] at hdestroy
    exact ih (hdestroy.2 ▸ hready)

section
variable (hD : Transport.Reliable ready sent) (hd : ready d)
include hD hd

private theorem sent_register (r : Registry) (o : Owner) : sent (r.register o d).2.2 = sent d :=
  ((reliable_keeps hD (sent d)).register o ⟨hd, rfl⟩).2

private theorem sent_unregister (r : Registry) (o : Owner) :
    sent (r.unregister o d).2.2 = sent d :=
  ((reliable_keeps hD (sent d)).unregister o ⟨hd, rfl⟩).2

private theorem share_fini {order : List String} (ho : r.names ⊆ order) :
    ((r.finiIn order d).1, share sent name (r.finiIn order d).2.1 (r.finiIn order d).2.2) =
      (share sent name r d).fini := by
  have hsent : sent (r.finiIn order d).2.2 = sent d :=
    ((reliable_keeps hD (sent d)).finiIn ho ⟨hd, rfl⟩).2
  have hcases := finiIn_cases d ho
  generalize r.finiIn order d = outcome at hcases hsent ⊢
  cases hcases with
  | down hr => simp [share, Share.fini, isUp, get?, rows, hr]
  | stopped hr hdismantled => cases dismantling_ok hD hd hdismantled
  | finished hr hdismantled =>
    dsimp only at hsent
    simp [share, Share.fini, isUp, get?, rows, hsent]

theorem share_register (hlimit : r.config.maxLoggers = none) (ho : o.loggerName = some name) :
    ((r.register o d).1, share sent name (r.register o d).2.1 (r.register o d).2.2) =
      (share sent name r d).register name o.id := by
  have hsent := sent_register hD hd r o
  have hcases := register_cases r o d
  generalize r.register o d = outcome at hcases hsent ⊢
  cases hcases with
  | down hr => simp [share, Share.register, isUp, hr]
  | nameless hr hname =>
    have hempty : name = "" := by simpa [Owner.usableName, ho] using hname
    simp [share, Share.register, isUp, hr, hempty]
  | @taken es name' hr hname hn =>
    obtain ⟨rfl, hne⟩ := eq_of_usableName ho hname
    have hsome : (r.get? name).isSome := hn
    simp [share, Share.register, isUp, hr, hne, hsome]
  | refused hr hname hn hc =>
    obtain ⟨d'', hok, -⟩ := hD.create hd o.id r.config.topic
    rw [hok] at hc
    cases hc
  | @full es name' endpoint e d' hr hname hn hc hl =>
    obtain ⟨rfl, hne⟩ := eq_of_usableName ho hname
    have hnone := get?_eq_none hn
    have hnolimit : r.limit? = none := by simp [limit?, hlimit]
    dsimp only at hsent
    simp only [shortage?, hnolimit] at hl
    split at hl
    · cases hl
    · rename_i hrefused
      cases hl
      simp [share, Share.register, isUp, hr, hne, hnone, hrefused, hsent]
  | @entered es name' endpoint d' hr hname hn hc hl =>
    obtain ⟨rfl, hne⟩ := eq_of_usableName ho hname
    obtain ⟨d'', hok, -⟩ := hD.create hd o.id r.config.topic
    rw [hok, Prod.mk.injEq, Except.ok.injEq] at hc
    obtain ⟨rfl, rfl⟩ := hc
    have hgranted : r.memory.entry = true := by
      have hnolimit : r.limit? = none := by simp [limit?, hlimit]
      simpa [shortage?, hnolimit] using hl
    have hadds : r.Adds ⟨⟨name, o.id, ⟨o.id, r.config.topic⟩⟩, name⟩ _ := adds_append hr hn
    have hnone : r.get? name = none := hadds.free
    have hget := congrFun hadds.get?_eq name
    rw [Function.update_self] at hget
    dsimp only at hsent
    simp [share, Share.register, isUp, hr, hne, hnone, hgranted, hget, hsent]

theorem share_unregister (ho : o.loggerName = some name) :
    ((r.unregister o d).1, share sent name (r.unregister o d).2.1 (r.unregister o d).2.2) =
      (share sent name r d).unregister name o.id := by
  have hsent := sent_unregister hD hd r o
  have hcases := unregister_cases r o d
  generalize r.unregister o d = outcome at hcases hsent ⊢
  cases hcases with
  | down hr => simp [share, Share.unregister, isUp, hr]
  | nameless hr hname =>
    have hempty : name = "" := by simpa [Owner.usableName, ho] using hname
    simp [share, Share.unregister, isUp, hr, hempty]
  | @unknown es name' hr hname hg =>
    obtain ⟨rfl, hne⟩ := eq_of_usableName ho hname
    simp [share, Share.unregister, isUp, hr, hne, hg]
  | @foreign es name' row hr hname hg hi =>
    obtain ⟨rfl, hne⟩ := eq_of_usableName ho hname
    simp [share, Share.unregister, isUp, hr, hne, hg, hi]
  | resisted hr hname hg hi hdestroy =>
    obtain ⟨d'', hok, -⟩ := hD.destroy hd _ _
    rw [hok] at hdestroy
    cases hdestroy
  | @removed es name' row d' hr hname hg hi hdestroy =>
    obtain ⟨rfl, hne⟩ := eq_of_usableName ho hname
    have hget := congrFun (get?_without hr name) name
    rw [Function.update_self] at hget
    dsimp only at hsent
    simp [share, Share.unregister, isUp, hr, hne, hg, hi, hget, hsent]

private theorem share_route (e : Event) (he : e.logger = name) :
    share sent name r (route ⟨r, .free⟩ e d) = (share sent name r d).route e := by
  subst he
  rw [route_free]
  cases hg : r.get? e.logger with
  | none => simp [share, Share.route, hg]
  | some row =>
    obtain ⟨d', hok, -, hsent⟩ := hD.publish hd row.endpoint (.ofEvent e)
    have hname : (Record.ofEvent e).name = e.logger := rfl
    simp [share, Share.route, hg, hok, hsent, hname]

theorem share_register_other (ho : o.loggerName ≠ some name) :
    share sent name (r.register o d).2.1 (r.register o d).2.2 = share sent name r d := by
  have hsent := sent_register hD hd r o
  have hcases := register_cases r o d
  generalize r.register o d = outcome at hcases hsent ⊢
  cases hcases with
  | down | nameless | taken => rfl
  | refused | full =>
    dsimp only at hsent
    simp [share, hsent]
  | @entered es name' endpoint d' hr hname hn hc hl =>
    have hne : name ≠ name' := fun h => ho (h ▸ (Owner.usableName_eq_some.mp hname).1)
    have hadds : r.Adds ⟨⟨name', o.id, endpoint⟩, name'⟩ _ := adds_append hr hn
    have hget := congrFun hadds.get?_eq name
    rw [Function.update_of_ne hne] at hget
    dsimp only at hsent
    simp [share, isUp, hr, hget, hsent]

theorem share_unregister_other (ho : o.loggerName ≠ some name) :
    share sent name (r.unregister o d).2.1 (r.unregister o d).2.2 = share sent name r d := by
  have hsent := sent_unregister hD hd r o
  have hcases := unregister_cases r o d
  generalize r.unregister o d = outcome at hcases hsent ⊢
  cases hcases with
  | down | nameless | unknown | foreign => rfl
  | resisted =>
    dsimp only at hsent
    simp [share, hsent]
  | @removed es name' row d' hr hname hg hi hdestroy =>
    have hne : name ≠ name' := fun h => ho (h ▸ (Owner.usableName_eq_some.mp hname).1)
    have hget := congrFun (get?_without hr name') name
    rw [Function.update_of_ne hne] at hget
    dsimp only at hsent
    simp [share, isUp, hr, hget, hsent]

private theorem share_route_other (e : Event) (he : e.logger ≠ name) :
    share sent name r (route ⟨r, .free⟩ e d) = share sent name r d := by
  rw [route_free]
  cases hg : r.get? e.logger with
  | none => rfl
  | some row =>
    obtain ⟨d', hok, -, hsent⟩ := hD.publish hd row.endpoint (.ofEvent e)
    have hname : (Record.ofEvent e).name ≠ name := he
    simp [share, hok, hsent, hname]

end

end

namespace Service

structure Turn (D : Type) where
  request : Request
  answer : Except LogError Unit
  after : Service D

variable {D : Type} [Transport D]

def turns (s : Service D) : List Request → List (Turn D)
  | [] => []
  | q :: qs => ⟨q, (s.serve q).1, (s.serve q).2⟩ :: (s.serve q).2.turns qs

def share (sent : D → List (OwnerId × Record)) (name : String) (s : Service D) : Share :=
  s.registry.value.share sent name s.transport

variable {ready : D → Prop} {sent : D → List (OwnerId × Record)} {s s' : Service D}
  {name : String}

/-- Nothing that a service is asked for fails for a limit, for its transport, or because someone
else uses the registry. -/
structure Able (ready : D → Prop) (s : Service D) : Prop where
  limitless : s.registry.value.config.maxLoggers = none
  ready : ready s.transport
  free : s.registry.lease = .free

omit [Transport D] in
private theorem Able.registry_eq (hs : s.Able ready) : s.registry = ⟨s.registry.value, .free⟩ := by
  rw [← hs.free]

omit [Transport D] in
private theorem Able.mayWrite (hs : s.Able ready) : s.registry.lease.mayWrite := by
  rw [hs.free]
  rfl

theorem share_serve (hD : Transport.Reliable ready sent) (hs : s.Able ready) {q : Request}
    (hq : q.concerns name) :
    ((s.serve q).1, (s.serve q).2.share sent name) = (s.share sent name).serve name q := by
  cases q with
  | init => exact share_init sent name s.registry.value s.transport
  | fini order => exact share_fini hD hs.ready (order.covers _)
  | register o => exact share_register hD hs.ready hs.limitless (of_decide_eq_true hq)
  | unregister o => exact share_unregister hD hs.ready (of_decide_eq_true hq)
  | acquire o =>
    rw [serve_acquire, if_pos hs.mayWrite]
    exact share_register hD hs.ready hs.limitless (of_decide_eq_true hq)
  | release g =>
    rw [serve_release, if_pos hs.mayWrite]
    exact share_unregister hD hs.ready (congrArg some (of_decide_eq_true hq))
  | route e =>
    have hroute := share_route (r := s.registry.value) hD hs.ready e (of_decide_eq_true hq)
    rw [← hs.registry_eq] at hroute
    exact congrArg _ hroute

theorem share_serve_other (hD : Transport.Reliable ready sent) (hs : s.Able ready) {q : Request}
    (hq : q.concerns name = false) : (s.serve q).2.share sent name = s.share sent name := by
  cases q with
  | init | fini => cases hq
  | register o => exact share_register_other hD hs.ready (of_decide_eq_false hq)
  | unregister o => exact share_unregister_other hD hs.ready (of_decide_eq_false hq)
  | acquire o =>
    rw [serve_acquire, if_pos hs.mayWrite]
    exact share_register_other hD hs.ready (of_decide_eq_false hq)
  | release g =>
    rw [serve_release, if_pos hs.mayWrite]
    refine share_unregister_other hD hs.ready fun h => of_decide_eq_false hq ?_
    exact Option.some.inj h
  | route e =>
    have hroute := share_route_other (r := s.registry.value) hD hs.ready e (of_decide_eq_false hq)
    rwa [← hs.registry_eq] at hroute

theorem able_serve (hD : Transport.Reliable ready sent) (hs : s.Able ready) (q : Request) :
    (s.serve q).2.Able ready where
  limitless := (congrArg (·.value.config.maxLoggers) (serve_frame s q)).trans hs.limitless
  free := (congrArg (·.lease) (serve_frame s q)).trans hs.free
  ready := by
    have hkeeps := reliable_keeps hD (sent s.transport)
    have hcases := serve_cases s q
    generalize s.serve q = outcome at hcases ⊢
    cases hcases with
    | lent | init => exact hs.ready
    | entering => exact (hkeeps.register _ ⟨hs.ready, rfl⟩).1
    | leaving => exact (hkeeps.unregister _ ⟨hs.ready, rfl⟩).1
    | fini order => exact (hkeeps.finiIn (order.covers _) ⟨hs.ready, rfl⟩).1
    | route e =>
      dsimp only
      rw [hs.registry_eq, route_free]
      cases s.registry.value.get? e.logger with
      | none => exact hs.ready
      | some row =>
        obtain ⟨d', hok, hready, -⟩ := hD.publish hs.ready row.endpoint (.ofEvent e)
        dsimp only
        rwa [hok]

def sights (sent : D → List (OwnerId × Record)) (name : String) (turns : List (Turn D)) :
    List (Except LogError Unit × Share) :=
  (turns.filter (·.request.concerns name)).map fun t => (t.answer, t.after.share sent name)

omit [Transport D] in
@[simp] theorem sights_cons_of_concerns {t : Turn D} (h : t.request.concerns name)
    (turns : List (Turn D)) :
    sights sent name (t :: turns) =
      (t.answer, t.after.share sent name) :: sights sent name turns := by
  simp [sights, h]

omit [Transport D] in
@[simp] private theorem sights_cons_of_other {t : Turn D} (h : t.request.concerns name = false)
    (turns : List (Turn D)) : sights sent name (t :: turns) = sights sent name turns := by
  simp [sights, h]

/-- Two runs whose services have the same to do with a logger, the second without the requests
about other loggers. -/
theorem sights_turns (hD : Transport.Reliable ready sent) (hs : s.Able ready) (hs' : s'.Able ready)
    (hshare : s.share sent name = s'.share sent name) (requests : List Request) :
    sights sent name (s.turns requests) =
        sights sent name (s'.turns (requests.filter (·.concerns name))) ∧
      (s.served requests).share sent name =
        (s'.served (requests.filter (·.concerns name))).share sent name := by
  induction requests generalizing s s' with
  | nil => exact ⟨rfl, hshare⟩
  | cons q requests ih =>
    cases hq : q.concerns name with
    | false =>
      -- only the first run has this request
      have hrest := ih (able_serve hD hs q) hs' ((share_serve_other hD hs hq).trans hshare)
      rw [List.filter_cons_of_neg (by simp [hq]), turns, sights_cons_of_other hq]
      exact hrest
    | true =>
      have hserve : ((s.serve q).1, (s.serve q).2.share sent name) =
          ((s'.serve q).1, (s'.serve q).2.share sent name) := by
        rw [share_serve hD hs hq, share_serve hD hs' hq, hshare]
      obtain ⟨hanswer, hafter⟩ := Prod.mk.inj hserve
      obtain ⟨hturns, hrun⟩ := ih (able_serve hD hs q) (able_serve hD hs' q) hafter
      rw [List.filter_cons_of_pos hq, turns, turns, sights_cons_of_concerns hq,
        sights_cons_of_concerns hq, hturns]
      exact ⟨by dsimp only; rw [hanswer, hafter], hrun⟩

/-- Without a limit, and while the transport does what it is asked to, no logger is touched by the
others: if the requests about them are left out of a run, each request that is left has the answer
that it had, and after it the logger has the row that it had and has been published for as
before. An order arranges the names of either run as it pleases, so the two need not be taken down
alike. -/
theorem isolated_by_name (hD : Transport.Reliable ready sent) (hs : s.Able ready) (name : String)
    (requests : List Request) :
    let kept := requests.filter (·.concerns name)
    sights sent name (s.turns requests) = sights sent name (s.turns kept) ∧
      (s.served requests).share sent name = (s.served kept).share sent name :=
  sights_turns hD hs hs rfl requests

theorem isolated_by_name_nav :
    let event (name : String) : Event := ⟨.info, name, 0, "hello", none⟩
    let owner (id : UInt64) (name : String) : Owner := ⟨⟨id⟩, some name⟩
    let requests : List Request := [.init, .register (owner 1 "arm"), .register (owner 1 "nav"),
      .route (event "arm"), .route (event "nav"), .register (owner 2 "nav"), .fini .asEntered,
      .route (event "nav"), .init, .unregister (owner 1 "nav"), .register (owner 3 "nav"),
      .unregister (owner 1 "arm"), .route (event "nav")]
    let kept := requests.filter (·.concerns "nav")
    let start : Service Journal := .new {} {}
    start.Able Journal.Smooth ∧ requests.length = 13 ∧ kept.length = 10 ∧
      sights (·.published) "nav" (start.turns requests) =
        sights (·.published) "nav" (start.turns kept) ∧
      ((start.served kept).share (·.published) "nav").published =
        [(⟨1⟩, .ofEvent (event "nav")), (⟨3⟩, .ofEvent (event "nav"))] ∧
      (start.served requests).transport.published =
        [(⟨1⟩, .ofEvent (event "arm")), (⟨1⟩, .ofEvent (event "nav")),
          (⟨3⟩, .ofEvent (event "nav"))] := by
  intro event owner requests kept start
  have hable : start.Able Journal.Smooth := ⟨rfl, ⟨rfl, rfl, rfl⟩, rfl⟩
  obtain ⟨hsights, -⟩ := isolated_by_name Journal.reliable hable "nav" requests
  exact ⟨hable, rfl, by decide, hsights, by decide, by decide⟩

end Service

end Registry

end LogRouting
