import LogRouting.Proofs.Registry.Run
/-!
A registry is taken down endpoint by endpoint. The first one that resists ends the attempt, and the
next attempt goes on with the entries that are left, in whatever order. The calls are watched here:
each destroy call is written down with its answer, which changes neither an answer nor what becomes
of the devices. Main statement: `fini_stops_and_resumes`.
-/
namespace LogRouting

structure Destruction where
  owner : OwnerId
  endpoint : Endpoint
  answer : Except TransportError Unit

structure Watched (D : Type) where
  device : D
  destroys : List Destruction := []

namespace Watched

variable {D : Type}

def fresh (d : D) : Watched D :=
  ⟨d, []⟩

def destroyed (w : Watched D) : List Destruction :=
  w.destroys.filter (·.answer.isOk)

def failures (w : Watched D) : Nat :=
  w.destroys.countP (!·.answer.isOk)

variable [Transport D]

def destroy (owner : OwnerId) (endpoint : Endpoint) (w : Watched D) :
    Except TransportError Unit × Watched D :=
  let (answer, d) := Transport.destroy owner endpoint w.device
  (answer, ⟨d, w.destroys ++ [⟨owner, endpoint, answer⟩]⟩)

instance : Transport (Watched D) where
  create owner topic w :=
    let (answer, d) := Transport.create owner topic w.device
    (answer, { w with device := d })
  destroy := destroy
  publish endpoint r w :=
    let (answer, d) := Transport.publish endpoint r w.device
    (answer, { w with device := d })

variable {owner : OwnerId} {endpoint : Endpoint} {answer : Except TransportError Unit} {d : D}
  {w w' : Watched D}

theorem destroy_of_device (h : Transport.destroy owner endpoint w.device = (answer, d)) :
    Transport.destroy owner endpoint w =
      (answer, ⟨d, w.destroys ++ [⟨owner, endpoint, answer⟩]⟩) := by
  change destroy owner endpoint w = _
  rw [destroy, h]

theorem destroys_of_destroy (h : Transport.destroy owner endpoint w = (answer, w')) :
    w'.destroys = w.destroys ++ [⟨owner, endpoint, answer⟩] := by
  rw [destroy_of_device (d := (Transport.destroy owner endpoint w.device).2) rfl] at h
  cases h
  rfl

theorem destroyed_of_destroy_ok (h : Transport.destroy owner endpoint w = (.ok (), w')) :
    w'.destroyed = w.destroyed ++ [⟨owner, endpoint, .ok ()⟩] ∧ w'.failures = w.failures := by
  rw [destroyed, failures, destroys_of_destroy h, List.filter_append, List.countP_append]
  exact ⟨rfl, rfl⟩

theorem destroyed_of_destroy_error {e : TransportError}
    (h : Transport.destroy owner endpoint w = (.error e, w')) :
    w'.destroyed = w.destroyed ∧ w'.failures = w.failures + 1 := by
  rw [destroyed, failures, destroys_of_destroy h, List.filter_append, List.countP_append]
  exact ⟨List.append_nil _, rfl⟩

end Watched

namespace Registry

variable {D : Type} [Transport D]

private theorem tearDown_device (order : List String) (es : List Row) (w : Watched D) :
    tearDown order es w.device =
      ((tearDown order es w).1, (tearDown order es w).2.1, (tearDown order es w).2.2.device) := by
  induction order generalizing es w with
  | nil => rfl
  | cons name order ih =>
    unfold tearDown
    cases hf : es.find? (·.key = name) with
    | none => exact ih es w
    | some row =>
      dsimp only
      rcases hd : Transport.destroy row.owner row.endpoint w.device with ⟨e | ⟨⟩, d⟩
      · rw [Watched.destroy_of_device hd]
      · rw [Watched.destroy_of_device hd]
        exact ih (without es name) ⟨d, _⟩

theorem finiIn_device (order : List String) (r : Registry) (w : Watched D) :
    r.finiIn order w.device =
      ((r.finiIn order w).1, (r.finiIn order w).2.1, (r.finiIn order w).2.2.device) := by
  unfold finiIn
  cases hr : r.loggers with
  | none => rfl
  | some es =>
    dsimp only
    rw [tearDown_device]
    rcases tearDown order es w with ⟨e | ⟨⟩, es', w'⟩ <;> rfl

end Registry


def Row.destruction (row : Row) (answer : Except TransportError Unit) : Destruction :=
  ⟨row.owner, row.endpoint, answer⟩

namespace Registry

variable {D : Type} [Transport D]

/-- The devices after destroying the endpoints of the entries one after another, unless one of
them resists. -/
def destroyAll : List Row → D → Option D
  | [], d => some d
  | row :: rest, d =>
    match Transport.destroy row.owner row.endpoint d with
    | (.ok (), d) => destroyAll rest d
    | (.error _, _) => none

/-- Takes a registry down again and again, in an order of its own each time, until that succeeds.
The answers are those of all attempts that were made. -/
def retry : List Order → Registry → D → List (Except LogError Unit) × Registry × D
  | [], r, d => ([], r, d)
  | order :: orders, r, d =>
    match r.finiIn (order.arrange r.names) d with
    | (.ok (), r, d) => ([.ok ()], r, d)
    | (.error e, r, d) =>
      let (answers, r, d) := retry orders r d
      (.error e :: answers, r, d)

section
variable {order : Order} {orders : List Order} {r r' : Registry} {e : LogError} {d d' : D}

theorem retry_ok (h : r.finiIn (order.arrange r.names) d = (.ok (), r', d')) :
    retry (order :: orders) r d = ([.ok ()], r', d') := by
  rw [retry, h]

theorem retry_error (h : r.finiIn (order.arrange r.names) d = (.error e, r', d')) :
    retry (order :: orders) r d =
      (.error e :: (retry orders r' d').1, (retry orders r' d').2) := by
  rw [retry, h]

end

omit [Transport D] in
theorem find?_of_mem {es : List Row} {row : Row} (hnodup : (es.map Row.key).Nodup)
    (he : row ∈ es) : es.find? (·.key = row.key) = some row := by
  cases hf : es.find? (·.key = row.key) with
  | none =>
    have hother := List.find?_eq_none.mp hf row he
    simp at hother
  | some found =>
    have hname : found.key = row.key := by simpa using List.find?_some hf
    rw [List.inj_on_of_nodup_map hnodup (List.mem_of_find?_eq_some hf) he hname]

section
variable {es first rest : List Row} {w : Watched D} {d : D}

/-- A teardown gets past the entries whose endpoints can be destroyed, and is left with the
others. -/
theorem tearDown_destroyAll (more : List String) (hperm : es.Perm (first ++ rest))
    (hnodup : (es.map Row.key).Nodup) (h : destroyAll first w.device = some d) :
    ∃ left : List Row, left.Perm rest ∧
      tearDown (first.map Row.key ++ more) es w =
        tearDown more left ⟨d, w.destroys ++ first.map (·.destruction (.ok ()))⟩ := by
  induction first generalizing es w with
  | nil =>
    cases h
    exact ⟨es, hperm, by simp⟩
  | cons row first ih =>
    have he : row ∈ es := hperm.symm.subset (List.mem_cons_self ..)
    unfold destroyAll at h
    rcases hd : Transport.destroy row.owner row.endpoint w.device with ⟨e | ⟨⟩, d'⟩
    · simp [hd] at h
    · simp only [hd] at h
      have hrest : (without es row.key).Perm (first ++ rest) :=
        ((perm_cons_without hnodup he).symm.trans hperm).cons_inv
      have hsub := (without_sublist es row.key).map Row.key
      obtain ⟨left, hleft, htear⟩ := ih (w := ⟨d', w.destroys ++ [row.destruction (.ok ())]⟩)
        hrest (hsub.nodup hnodup) h
      refine ⟨left, hleft, ?_⟩
      rw [List.map_cons, List.cons_append, tearDown, find?_of_mem hnodup he]
      dsimp only
      rw [Watched.destroy_of_device hd]
      simpa [Row.destruction] using htear

variable {r : Registry} {row : Row} {e : TransportError} {d' : D}

theorem finiIn_stops (hr : r.loggers = some es) (hnodup : r.names.Nodup)
    (horder : (first ++ row :: rest).Perm es) (hfirst : destroyAll first w.device = some d)
    (hrow : Transport.destroy row.owner row.endpoint d = (.error e, d')) :
    ∃ left : List Row, left.Perm (row :: rest) ∧
      r.finiIn ((first ++ row :: rest).map Row.key) w =
        (.error (.transport e), { r with loggers := some left },
          ⟨d', w.destroys ++ first.map (·.destruction (.ok ())) ++
            [row.destruction (.error e)]⟩) := by
  rw [names, rows_of_up hr] at hnodup
  obtain ⟨left, hleft, htear⟩ :=
    tearDown_destroyAll ((row :: rest).map Row.key) horder.symm hnodup hfirst
  have hnames := (horder.map Row.key).nodup_iff.mpr hnodup
  rw [List.map_append] at hnames
  have hleftnames : (left.map Row.key).Nodup :=
    (hleft.map Row.key).nodup_iff.mpr (List.nodup_append.mp hnames).2.1
  have hfind := find?_of_mem hleftnames (hleft.symm.subset (List.mem_cons_self ..))
  refine ⟨left, hleft, ?_⟩
  unfold finiIn
  rw [hr, List.map_append]
  dsimp only
  rw [htear, List.map_cons, tearDown, hfind]
  dsimp only
  rw [Watched.destroy_of_device hrow]
  rfl

theorem finiIn_completes {order : List Row} (hr : r.loggers = some es) (hnodup : r.names.Nodup)
    (horder : order.Perm es) (hall : destroyAll order w.device = some d) :
    r.finiIn (order.map Row.key) w =
      (.ok (), { r with loggers := none },
        ⟨d, w.destroys ++ order.map (·.destruction (.ok ()))⟩) := by
  rw [names, rows_of_up hr] at hnodup
  have hperm : es.Perm (order ++ []) := by simpa using horder.symm
  obtain ⟨left, hleft, htear⟩ := tearDown_destroyAll [] hperm hnodup hall
  unfold finiIn
  rw [hr]
  dsimp only
  rw [← List.append_nil (order.map Row.key), htear]
  rfl

end

section
variable {es : List Row} {r : Registry} {w : Watched D}

theorem dismantling_watched {es es' : List Row} {result : Except TransportError Unit}
    {w w' : Watched D} (h : Dismantling es w result es' w') (hnodup : (es.map Row.key).Nodup) :
    (w.destroyed ++ es.map (·.destruction (.ok ()))).Perm
        (w'.destroyed ++ es'.map (·.destruction (.ok ()))) ∧
      w'.failures = w.failures + if result.isOk then 0 else 1 := by
  induction h with
  | done => exact ⟨.refl _, rfl⟩
  | resisted he hd =>
    obtain ⟨hdestroyed, hfailures⟩ := Watched.destroyed_of_destroy_error hd
    rw [hdestroyed]
    exact ⟨.refl _, hfailures⟩
  | @destroyed es es' row result w w₁ w₂ he hd hrest ih =>
    obtain ⟨hdestroyed, hfailures⟩ := Watched.destroyed_of_destroy_ok hd
    have hsub := (without_sublist es row.key).map Row.key
    obtain ⟨hperm, hcount⟩ := ih (hsub.nodup hnodup)
    have hrow := (perm_cons_without hnodup he).map (·.destruction (.ok ()))
    rw [hdestroyed, List.append_assoc] at hperm
    rw [hfailures] at hcount
    exact ⟨(hrow.append_left _).trans hperm, hcount⟩

inductive Attempt (r : Registry) (es : List Row) (w : Watched D) :
    Except LogError Unit × Registry × Watched D → Prop where
  | stopped {left : List Row} {e : LogError} {w' : Watched D} (hsub : left.Sublist es)
      (hperm : (w.destroyed ++ es.map (·.destruction (.ok ()))).Perm
        (w'.destroyed ++ left.map (·.destruction (.ok ()))))
      (hfailures : w'.failures = w.failures + 1) :
      Attempt r es w (.error e, { r with loggers := some left }, w')
  | finished {w' : Watched D}
      (hperm : (w.destroyed ++ es.map (·.destruction (.ok ()))).Perm w'.destroyed)
      (hfailures : w'.failures = w.failures) :
      Attempt r es w (.ok (), { r with loggers := none }, w')

theorem finiIn_attempt (order : Order) (hr : r.loggers = some es) (hnodup : r.names.Nodup) :
    Attempt r es w (r.finiIn (order.arrange r.names) w) := by
  have hcases := finiIn_cases w (order.covers r.names)
  generalize r.finiIn (order.arrange r.names) w = outcome at hcases ⊢
  rw [names, rows_of_up hr] at hnodup
  cases hcases with
  | down hdown => simp [hr] at hdown
  | stopped hup hdis =>
    cases hr.symm.trans hup
    obtain ⟨hperm, hfailures⟩ := dismantling_watched hdis hnodup
    exact .stopped hdis.sublist hperm hfailures
  | finished hup hdis =>
    cases hr.symm.trans hup
    obtain ⟨hperm, hfailures⟩ := dismantling_watched hdis hnodup
    rw [List.map_nil, List.append_nil] at hperm
    exact .finished hperm hfailures

private theorem keeps_failures (n : Nat) : Keeps fun w : Watched D => n ≤ w.failures where
  create {owner topic w w' result} hw h := by
    cases h
    exact hw
  destroy {owner endpoint w w' result} hw h := by
    cases result with
    | error e =>
      rw [(Watched.destroyed_of_destroy_error h).2]
      exact Nat.le_succ_of_le hw
    | ok u => rwa [(Watched.destroyed_of_destroy_ok h).2]

private theorem retry_device (orders : List Order) (r : Registry) (w : Watched D) :
    retry orders r w.device =
      ((retry orders r w).1, (retry orders r w).2.1, (retry orders r w).2.2.device) := by
  induction orders generalizing r w with
  | nil => rfl
  | cons order orders ih =>
    have hdevice := finiIn_device (order.arrange r.names) r w
    rcases h : r.finiIn (order.arrange r.names) w with ⟨e | ⟨⟩, r', w'⟩
    · rw [h] at hdevice
      rw [retry_error h, retry_error hdevice, ih r' w']
    · rw [h] at hdevice
      rw [retry_ok h, retry_ok hdevice]

theorem failures_le_retry (orders : List Order) (r : Registry) (w : Watched D) :
    w.failures ≤ (retry orders r w).2.2.failures := by
  induction orders generalizing r w with
  | nil => exact Nat.le_refl _
  | cons order orders ih =>
    have hstep : w.failures ≤ (r.finiIn (order.arrange r.names) w).2.2.failures :=
      (keeps_failures w.failures).finiIn (order.covers r.names) (Nat.le_refl _)
    rcases h : r.finiIn (order.arrange r.names) w with ⟨e | ⟨⟩, r', w'⟩
    · rw [h] at hstep
      rw [retry_error h]
      exact Nat.le_trans hstep (ih r' w')
    · rw [h] at hstep
      rwa [retry_ok h]

theorem retry_succeeds {orders : List Order} {f : Nat} (hr : r.loggers = some es)
    (hnodup : r.names.Nodup) (hf : f < orders.length)
    (hfailures : (retry orders r w).2.2.failures ≤ w.failures + f) :
    (retry orders r w).1.getLast? = some (.ok ()) ∧
      (retry orders r w).1.length ≤ f + 1 ∧
      (retry orders r w).2.1.loggers = none ∧
      (w.destroyed ++ es.map (·.destruction (.ok ()))).Perm (retry orders r w).2.2.destroyed := by
  induction orders generalizing r es w f with
  | nil => cases hf
  | cons order orders ih =>
    have hattempt := finiIn_attempt (w := w) order hr hnodup
    generalize h : r.finiIn (order.arrange r.names) w = outcome at hattempt
    cases hattempt with
    | finished hperm _ =>
      rw [retry_ok h]
      exact ⟨rfl, Nat.le_add_left .., rfl, hperm⟩
    | @stopped left e w' hsub hperm hcount =>
      rw [retry_error h] at hfailures ⊢
      dsimp only at hfailures
      -- the failed call is among the `f`, so the attempts that follow have one less to spend
      have hle := failures_le_retry orders { r with loggers := some left } w'
      obtain ⟨f, rfl⟩ : ∃ n, f = n + 1 := Nat.exists_eq_succ_of_ne_zero (by omega)
      have hleft : ({ r with loggers := some left } : Registry).names.Nodup := by
        rw [names, rows_of_up hr] at hnodup
        exact (hsub.map Row.key).nodup hnodup
      obtain ⟨hlast, hlength, hdown, hrest⟩ :=
        ih (w := w') rfl hleft (Nat.lt_of_succ_lt_succ hf) (by omega)
      refine ⟨?_, Nat.succ_le_succ hlength, hdown, hperm.trans hrest⟩
      rw [List.getLast?_cons, hlast]
      rfl

end

/-- Taking down a registry that is up, with its calls to the transport under watch. Its names stand
once, as those of a `Sound` registry do. An order whose first endpoint to resist is that of `row`
ends there: those before it are gone, and it stays with those after it. An order that meets no
resistance takes the registry down. Attempts that fail by no more than `f` calls in total are over
after `f + 1` of them, and each endpoint was then destroyed once. -/
theorem fini_stops_and_resumes (r : Registry) (es : List Row) (hr : r.loggers = some es)
    (hnodup : r.names.Nodup) :
    (∀ (order : List String) (w : Watched D), r.finiIn order w.device =
      ((r.finiIn order w).1, (r.finiIn order w).2.1, (r.finiIn order w).2.2.device)) ∧
    (∀ (orders : List Order) (w : Watched D), retry orders r w.device =
      ((retry orders r w).1, (retry orders r w).2.1, (retry orders r w).2.2.device)) ∧
    (∀ (first rest : List Row) (row : Row) (e : TransportError) (d d₁ d₂ : D),
      (first ++ row :: rest).Perm es → destroyAll first d = some d₁ →
      Transport.destroy row.owner row.endpoint d₁ = (.error e, d₂) →
      ∃ left : List Row, left.Perm (row :: rest) ∧
        r.finiIn ((first ++ row :: rest).map Row.key) (Watched.fresh d) =
          (.error (.transport e), { r with loggers := some left },
            ⟨d₂, first.map (·.destruction (.ok ())) ++ [row.destruction (.error e)]⟩)) ∧
    (∀ (order : List Row) (d d₁ : D), order.Perm es → destroyAll order d = some d₁ →
      r.finiIn (order.map Row.key) (Watched.fresh d) =
        (.ok (), { r with loggers := none }, ⟨d₁, order.map (·.destruction (.ok ()))⟩)) ∧
    ∀ (orders : List Order) (f : Nat) (d : D), f < orders.length →
      let (answers, r', w) := retry orders r (Watched.fresh d)
      w.failures ≤ f →
        answers.getLast? = some (.ok ()) ∧ answers.length ≤ f + 1 ∧ r'.loggers = none ∧
          w.destroyed.Perm (es.map (·.destruction (.ok ()))) := by
  refine ⟨fun order w => finiIn_device order r w, fun orders w => retry_device orders r w,
    ?_, ?_, ?_⟩
  · intro first rest row e d d₁ d₂ horder hfirst hrow
    exact finiIn_stops (w := .fresh d) hr hnodup horder hfirst hrow
  · intro order d d₁ horder hall
    exact finiIn_completes (w := .fresh d) hr hnodup horder hall
  · intro orders f d hf hfailures
    obtain ⟨hlast, hlength, hdown, hperm⟩ := retry_succeeds (w := .fresh d) hr hnodup hf
      (Nat.le_trans hfailures (Nat.le_add_left ..))
    exact ⟨hlast, hlength, hdown, hperm.symm⟩

/-- Three endpoints, of which the second resists once. -/
theorem fini_stops_and_resumes_at_second :
    let nav : Row := ⟨⟨"nav", ⟨1⟩, ⟨⟨1⟩, "rosout"⟩⟩, "nav"⟩
    let arm : Row := ⟨⟨"arm", ⟨2⟩, ⟨⟨2⟩, "rosout"⟩⟩, "arm"⟩
    let camera : Row := ⟨⟨"camera", ⟨3⟩, ⟨⟨3⟩, "rosout"⟩⟩, "camera"⟩
    let r : Registry := { config := {}, loggers := some [camera, nav, arm] }
    let resisting : Journal := { failDestroyOn := some 2 }
    let e := TransportError.destroy (Journal.numbered "scripted failure on destroy call " 2)
    r.names.Nodup ∧
      (∃ left : List Row, left.Perm [arm, camera] ∧
        r.finiIn ["nav", "arm", "camera"] (Watched.fresh resisting) =
          (.error (.transport e), { r with loggers := some left },
            ⟨{ resisting with destroyCalls := 2, destroyed := [⟨1⟩] },
              [nav.destruction (.ok ()), arm.destruction (.error e)]⟩)) ∧
      r.finiIn ["arm", "camera", "nav"] (Watched.fresh ({} : Journal)) =
        (.ok (), { r with loggers := none },
          ⟨{ destroyCalls := 3, destroyed := [⟨2⟩, ⟨3⟩, ⟨1⟩] },
            [arm.destruction (.ok ()), camera.destruction (.ok ()), nav.destruction (.ok ())]⟩) ∧
      let (answers, r', w) := retry [.asEntered, .asEntered] r (Watched.fresh resisting)
      w.failures = 1 ∧ answers.getLast? = some (.ok ()) ∧ answers.length ≤ 2 ∧
        r'.loggers = none ∧ w.destroyed.Perm ([camera, nav, arm].map (·.destruction (.ok ()))) := by
  intro nav arm camera r resisting e
  have hnodup : r.names.Nodup := by decide
  obtain ⟨_, _, hstops, hcompletes, hretry⟩ :=
    fini_stops_and_resumes (D := Journal) r [camera, nav, arm] rfl hnodup
  refine ⟨hnodup, ?_, ?_, ?_⟩
  · exact hstops [nav] [camera] arm e resisting _ _ (by decide) rfl rfl
  · exact hcompletes [arm, camera, nav] {} _ (by decide) rfl
  · have hone : (retry [.asEntered, .asEntered] r (Watched.fresh resisting)).2.2.failures = 1 := by
      decide
    exact ⟨hone, hretry [.asEntered, .asEntered] 1 resisting (by decide) (Nat.le_of_eq hone)⟩

end Registry

end LogRouting
