import LogRouting.Registry
import Mathlib.Data.List.Nodup
/-!
What the operations of a registry come to, case by case. Each case says what held before and what
is left, so that later proofs go by cases and never open an operation again. And what every registry
that is changed by its own operations alone looks like: `Sound`.
-/
namespace LogRouting

/-- The endpoints of a faithful transport are those that were asked for. -/
class Transport.Faithful (D : Type) [Transport D] : Prop where
  create_eq {owner : OwnerId} {topic : String} {endpoint : Endpoint} {d d' : D} :
    Transport.create owner topic d = (.ok endpoint, d') → endpoint = ⟨owner, topic⟩

theorem Owner.usableName_eq_some {o : Owner} {name : String} :
    o.usableName = some name ↔ o.loggerName = some name ∧ name ≠ "" := by
  simp [usableName]

theorem Owner.usableName_eq_none {o : Owner} : o.usableName = none ↔ o.loggerName.getD "" = "" := by
  unfold usableName
  cases o.loggerName with
  | none => simp
  | some name => simp

namespace Registry

variable {D : Type} [Transport D]

@[simp] theorem rows_mk_some (c : RegistryConfig) (es : List Row) (m : Memory) :
    (Registry.mk c (some es) m).rows = es := rfl

@[simp] theorem rows_mk_none (c : RegistryConfig) (m : Memory) :
    (Registry.mk c none m).rows = [] := rfl

theorem rows_of_up {r : Registry} {es : List Row} (h : r.loggers = some es) :
    r.rows = es := by
  simp [rows, h]

theorem rows_of_down {r : Registry} (h : r.loggers = none) : r.rows = [] := by
  simp [rows, h]

@[simp] theorem rows_allot (r : Registry) (memory : Memory) : (r.allot memory).rows = r.rows := rfl

@[simp] theorem config_allot (r : Registry) (memory : Memory) :
    (r.allot memory).config = r.config := rfl

theorem up_of_isUp {r : Registry} (h : r.isUp) : ∃ es, r.loggers = some es :=
  Option.isSome_iff_exists.mp h

inductive Initialising (r : Registry) : Except LogError Unit × Registry → Prop where
  | kept (hup : r.isUp) : Initialising r (.ok (), r)
  | refused {e : LogError} (hr : r.loggers = none) (hm : r.noMap? = some e) :
      Initialising r (.error e, r)
  | raised (hr : r.loggers = none) (hm : r.noMap? = none) :
      Initialising r (.ok (), { r with loggers := some [] })

theorem init_cases (r : Registry) : Initialising r r.init := by
  unfold init
  by_cases hup : r.isUp
  · rw [if_pos hup]
    exact .kept hup
  · have hr : r.loggers = none := by simpa [isUp] using hup
    rw [if_neg hup]
    cases hm : r.noMap? with
    | some e => exact .refused hr hm
    | none => exact .raised hr hm

@[simp] theorem rows_init (r : Registry) : r.init.2.rows = r.rows := by
  have hcases := init_cases r
  generalize r.init = outcome at hcases ⊢
  cases hcases with
  | kept | refused => rfl
  | raised hr => simp [rows, hr]

theorem init_frame (r : Registry) : r.init.2 = { r with loggers := r.init.2.loggers } := by
  have hcases := init_cases r
  generalize r.init = outcome at hcases ⊢
  cases hcases <;> rfl

@[simp] theorem config_init (r : Registry) : r.init.2.config = r.config :=
  congrArg (·.config) (init_frame r)

@[simp] theorem contains_iff {r : Registry} {name : String} : r.contains name ↔ name ∈ r.names := by
  simp [contains, get?, names]

theorem key_of_get? {r : Registry} {name : String} {row : Row}
    (h : r.get? name = some row) : row.key = name := by
  simpa using List.find?_some h

theorem get?_eq_none {r : Registry} {name : String} (h : ¬r.contains name) :
    r.get? name = none := by
  simpa [contains] using h

theorem mem_of_get? {r : Registry} {name : String} {row : Row}
    (h : r.get? name = some row) : row ∈ r.rows :=
  List.mem_of_find?_eq_some h

theorem badAlloc_of_shortage? {r : Registry} {e : LogError} (h : r.shortage? = some e) :
    ∃ reason, e = .badAlloc reason := by
  unfold shortage? at h
  cases hl : r.limit? with
  | some max =>
    rw [hl] at h
    cases h
    exact ⟨_, rfl⟩
  | none =>
    rw [hl] at h
    dsimp only at h
    split at h
    · cases h
    · cases h
      exact ⟨_, rfl⟩

theorem limit?_of_shortage? {r : Registry} (h : r.shortage? = none) : r.limit? = none := by
  unfold shortage? at h
  cases hl : r.limit? with
  | none => rfl
  | some max =>
    rw [hl] at h
    cases h

/-- What registering an owner comes to. Only the last case changes the registry. -/
inductive Registering (r : Registry) (o : Owner) (d : D) :
    Except LogError Unit × Registry × D → Prop where
  | down (hr : r.loggers = none) : Registering r o d (.ok (), r, d)
  | nameless {es : List Row} (hr : r.loggers = some es) (ho : o.usableName = none) :
      Registering r o d (.error (nameless o.id), r, d)
  | taken {es : List Row} {name : String} (hr : r.loggers = some es)
      (ho : o.usableName = some name) (hn : r.contains name) :
      Registering r o d (.error (.alreadyInit name), r, d)
  | refused {es : List Row} {name : String} {e : TransportError} {d' : D}
      (hr : r.loggers = some es) (ho : o.usableName = some name) (hn : ¬r.contains name)
      (hc : Transport.create o.id r.config.topic d = (.error e, d')) :
      Registering r o d (.error (.transport e), r, d')
  | full {es : List Row} {name : String} {endpoint : Endpoint} {e : LogError} {d' : D}
      (hr : r.loggers = some es) (ho : o.usableName = some name) (hn : ¬r.contains name)
      (hc : Transport.create o.id r.config.topic d = (.ok endpoint, d'))
      (hl : r.shortage? = some e) :
      Registering r o d (.error e, r, (Transport.destroy o.id endpoint d').2)
  | entered {es : List Row} {name : String} {endpoint : Endpoint} {d' : D}
      (hr : r.loggers = some es) (ho : o.usableName = some name) (hn : ¬r.contains name)
      (hc : Transport.create o.id r.config.topic d = (.ok endpoint, d'))
      (hl : r.shortage? = none) :
      Registering r o d
        (.ok (), { r with loggers := some (es ++ [⟨⟨name, o.id, endpoint⟩, name⟩]) }, d')

theorem register_cases (r : Registry) (o : Owner) (d : D) :
    Registering r o d (r.register o d) := by
  unfold register
  cases hr : r.loggers with
  | none => exact .down hr
  | some es =>
    cases ho : o.usableName with
    | none => exact .nameless hr ho
    | some name =>
      by_cases hn : r.contains name
      · simp only [hn, if_true]
        exact .taken hr ho hn
      · simp only [hn, Bool.false_eq_true, if_false]
        rcases hc : Transport.create o.id r.config.topic d with ⟨e | endpoint, d'⟩
        · exact .refused hr ho hn hc
        · cases hl : r.shortage? with
          | none => exact .entered hr ho hn hc hl
          | some e => exact .full hr ho hn hc hl

inductive Unregistering (r : Registry) (o : Owner) (d : D) :
    Except LogError Unit × Registry × D → Prop where
  | down (hr : r.loggers = none) : Unregistering r o d (.ok (), r, d)
  | nameless {es : List Row} (hr : r.loggers = some es) (ho : o.usableName = none) :
      Unregistering r o d (.error (.unresolvedOwner o.id), r, d)
  | unknown {es : List Row} {name : String} (hr : r.loggers = some es)
      (ho : o.usableName = some name) (hg : r.get? name = none) :
      Unregistering r o d (.error (.notInit name), r, d)
  | foreign {es : List Row} {name : String} {row : Row} (hr : r.loggers = some es)
      (ho : o.usableName = some name) (hg : r.get? name = some row) (hi : row.owner ≠ o.id) :
      Unregistering r o d (.error (.notInit name), r, d)
  | resisted {es : List Row} {name : String} {row : Row} {e : TransportError} {d' : D}
      (hr : r.loggers = some es) (ho : o.usableName = some name) (hg : r.get? name = some row)
      (hi : row.owner = o.id)
      (hd : Transport.destroy row.owner row.endpoint d = (.error e, d')) :
      Unregistering r o d (.error (.transport e), r, d')
  | removed {es : List Row} {name : String} {row : Row} {d' : D}
      (hr : r.loggers = some es) (ho : o.usableName = some name) (hg : r.get? name = some row)
      (hi : row.owner = o.id)
      (hd : Transport.destroy row.owner row.endpoint d = (.ok (), d')) :
      Unregistering r o d (.ok (), { r with loggers := some (without es name) }, d')

theorem unregister_cases (r : Registry) (o : Owner) (d : D) :
    Unregistering r o d (r.unregister o d) := by
  unfold unregister
  cases hr : r.loggers with
  | none => exact .down hr
  | some es =>
    cases ho : o.usableName with
    | none => exact .nameless hr ho
    | some name =>
      dsimp only
      cases hg : r.get? name with
      | none => exact .unknown hr ho hg
      | some row =>
        by_cases hi : row.owner = o.id
        · simp only [hi, ne_eq, not_true_eq_false, if_false]
          rcases hd : Transport.destroy o.id row.endpoint d with ⟨e | ⟨⟩, d'⟩
          · exact .resisted hr ho hg hi (by rw [hi, hd])
          · exact .removed hr ho hg hi (by rw [hi, hd])
        · simp only [ne_eq, hi, not_false_eq_true, if_true]
          exact .foreign hr ho hg hi

theorem without_sublist (es : List Row) (name : String) : (without es name).Sublist es :=
  List.filter_sublist

/-- Entries going one by one, each after its endpoint, up to the first endpoint that resists. The
order in which they go is left open. -/
inductive Dismantling : List Row → D → Except TransportError Unit → List Row → D → Prop where
  | done (es : List Row) (d : D) : Dismantling es d (.ok ()) es d
  | resisted {es : List Row} {row : Row} {e : TransportError} {d d' : D}
      (he : row ∈ es) (hd : Transport.destroy row.owner row.endpoint d = (.error e, d')) :
      Dismantling es d (.error e) es d'
  | destroyed {es es' : List Row} {row : Row} {result : Except TransportError Unit}
      {d d' d'' : D} (he : row ∈ es)
      (hd : Transport.destroy row.owner row.endpoint d = (.ok (), d'))
      (hrest : Dismantling (without es row.key) d' result es' d'') :
      Dismantling es d result es' d''

theorem tearDown_dismantles (order : List String) (es : List Row) (d : D) :
    Dismantling es d (tearDown order es d).1 (tearDown order es d).2.1
      (tearDown order es d).2.2 := by
  induction order generalizing es d with
  | nil => exact .done es d
  | cons name order ih =>
    unfold tearDown
    cases hf : es.find? (·.key = name) with
    | none => exact ih es d
    | some row =>
      have he : row ∈ es := List.mem_of_find?_eq_some hf
      have hn : row.key = name := by simpa using List.find?_some hf
      dsimp only
      rcases hd : Transport.destroy row.owner row.endpoint d with ⟨e | ⟨⟩, d'⟩
      · exact .resisted he hd
      · refine .destroyed he hd ?_
        rw [hn]
        exact ih (without es name) d'

theorem Dismantling.sublist {es es' : List Row} {result : Except TransportError Unit} {d d' : D}
    (h : Dismantling es d result es' d') : es'.Sublist es := by
  induction h with
  | done es d => exact List.Sublist.refl es
  | resisted _ _ => exact List.Sublist.refl _
  | destroyed _ _ _ ih => exact ih.trans (without_sublist _ _)

/-- A teardown that comes by every name and meets no resistance leaves nothing. -/
theorem tearDown_ok {order : List String} {es es' : List Row} {d d' : D}
    (hcover : ∀ e ∈ es, e.key ∈ order) (h : tearDown order es d = (.ok (), es', d')) :
    es' = [] := by
  induction order generalizing es d with
  | nil =>
    simp only [tearDown, Prod.mk.injEq] at h
    rw [← h.2.1, List.eq_nil_iff_forall_not_mem]
    intro e he
    exact List.not_mem_nil (hcover e he)
  | cons name order ih =>
    unfold tearDown at h
    cases hf : es.find? (·.key = name) with
    | none =>
      simp only [hf] at h
      refine ih (fun e he => ?_) h
      have hne : e.key ≠ name := by simpa using List.find?_eq_none.mp hf e he
      exact (List.mem_cons.mp (hcover e he)).resolve_left hne
    | some row =>
      simp only [hf] at h
      rcases hd : Transport.destroy row.owner row.endpoint d with ⟨e | ⟨⟩, d''⟩
      · simp [hd] at h
      · simp only [hd] at h
        refine ih (fun e he => ?_) h
        obtain ⟨hmem, hne⟩ := List.mem_filter.mp he
        exact (List.mem_cons.mp (hcover e hmem)).resolve_left (by simpa using hne)

inductive Finishing (r : Registry) (d : D) : Except LogError Unit × Registry × D → Prop where
  | down (hr : r.loggers = none) : Finishing r d (.ok (), r, d)
  | stopped {es es' : List Row} {e : TransportError} {d' : D} (hr : r.loggers = some es)
      (hd : Dismantling es d (.error e) es' d') :
      Finishing r d (.error (.transport e), { r with loggers := some es' }, d')
  | finished {es : List Row} {d' : D} (hr : r.loggers = some es)
      (hd : Dismantling es d (.ok ()) [] d') :
      Finishing r d (.ok (), { r with loggers := none }, d')

theorem finiIn_cases {order : List String} {r : Registry} (d : D) (ho : r.names ⊆ order) :
    Finishing r d (r.finiIn order d) := by
  unfold finiIn
  cases hr : r.loggers with
  | none => exact .down hr
  | some es =>
    dsimp only
    have hd := tearDown_dismantles order es d
    rcases ht : tearDown order es d with ⟨e | ⟨⟩, es', d'⟩
    · rw [ht] at hd
      exact .stopped hr hd
    · rw [ht] at hd
      have hcover : ∀ e ∈ es, e.key ∈ order := by
        intro e he
        exact ho (List.mem_map_of_mem (by rwa [rows_of_up hr]))
      have hnil : es' = [] := tearDown_ok hcover ht
      subst hnil
      exact .finished hr hd

@[simp] theorem acquire_snd (o : Owner) (s : Shared Registry) (d : D) :
    (Guard.acquire o s d).2 = (exclusively (·.register o) s d).2 := by
  unfold Guard.acquire
  rcases exclusively (·.register o) s d with ⟨_ | _, s', d'⟩ <;> rfl

theorem acquire_ok {o : Owner} {s : Shared Registry} {d : D} {g : Guard}
    (h : (Guard.acquire o s d).1 = .ok g) :
    (exclusively (·.register o) s d).1 = .ok () ∧ g = ⟨o.id, o.loggerName.getD ""⟩ := by
  unfold Guard.acquire at h
  rcases hregister : exclusively (·.register o) s d with ⟨e | ⟨⟩, s', d'⟩
  · rw [hregister] at h
    cases h
  · rw [hregister] at h
    cases h
    exact ⟨rfl, rfl⟩

section
variable {r : Registry} {o : Owner} {d : D} {row : Row}

/-! An operation changes the entries and nothing else. -/

theorem register_frame (r : Registry) (o : Owner) (d : D) :
    (r.register o d).2.1 = { r with loggers := (r.register o d).2.1.loggers } := by
  have hcases := register_cases r o d
  generalize r.register o d = outcome at hcases ⊢
  cases hcases <;> rfl

theorem unregister_frame (r : Registry) (o : Owner) (d : D) :
    (r.unregister o d).2.1 = { r with loggers := (r.unregister o d).2.1.loggers } := by
  have hcases := unregister_cases r o d
  generalize r.unregister o d = outcome at hcases ⊢
  cases hcases <;> rfl

theorem finiIn_frame {order : List String} (ho : r.names ⊆ order) :
    (r.finiIn order d).2.1 = { r with loggers := (r.finiIn order d).2.1.loggers } := by
  have hcases := finiIn_cases d ho
  generalize r.finiIn order d = outcome at hcases ⊢
  cases hcases <;> rfl

theorem mem_register (h : row ∈ (r.register o d).2.1.rows) :
    row ∈ r.rows ∨ ¬r.contains row.key ∧ o.usableName = some row.key ∧ row.owner = o.id := by
  have hcases := register_cases r o d
  generalize r.register o d = outcome at hcases h
  cases hcases with
  | @entered es name endpoint d' hr ho hn hc hl =>
    rcases List.mem_append.mp h with hold | hnew
    · left
      rwa [rows_of_up hr]
    · right
      rw [List.mem_singleton.mp hnew]
      exact ⟨hn, ho, rfl⟩
  | _ => exact .inl h

theorem unregister_subset (r : Registry) (o : Owner) (d : D) :
    (r.unregister o d).2.1.rows ⊆ r.rows := by
  have hcases := unregister_cases r o d
  generalize r.unregister o d = outcome at hcases ⊢
  cases hcases with
  | @removed es name row d' hr ho hg hi hd =>
    rw [rows_of_up hr]
    exact (without_sublist es name).subset
  | _ => exact List.Subset.refl _

theorem finiIn_subset {order : List String} (ho : r.names ⊆ order) (d : D) :
    (r.finiIn order d).2.1.rows ⊆ r.rows := by
  have hcases := finiIn_cases d ho
  generalize r.finiIn order d = outcome at hcases ⊢
  cases hcases with
  | down => exact List.Subset.refl _
  | @stopped es es' e d' hr hd =>
    rw [rows_of_up hr]
    exact hd.sublist.subset
  | finished => exact List.nil_subset _

end

structure Keeps (P : D → Prop) : Prop where
  create {owner : OwnerId} {topic : String} {d d' : D} {result : Except TransportError Endpoint} :
    P d → Transport.create owner topic d = (result, d') → P d'
  destroy {owner : OwnerId} {e : Endpoint} {d d' : D} {result : Except TransportError Unit} :
    P d → Transport.destroy owner e d = (result, d') → P d'

section
variable {P : D → Prop} {r : Registry} {d : D}

theorem Keeps.register (hP : Keeps P) (o : Owner) (hd : P d) : P (r.register o d).2.2 := by
  have hcases := register_cases r o d
  generalize r.register o d = outcome at hcases ⊢
  cases hcases with
  | refused _ _ _ hc => exact hP.create hd hc
  | full _ _ _ hc _ => exact hP.destroy (hP.create hd hc) rfl
  | entered _ _ _ hc _ => exact hP.create hd hc
  | _ => exact hd

theorem Keeps.unregister (hP : Keeps P) (o : Owner) (hd : P d) : P (r.unregister o d).2.2 := by
  have hcases := unregister_cases r o d
  generalize r.unregister o d = outcome at hcases ⊢
  cases hcases with
  | resisted _ _ _ _ hc => exact hP.destroy hd hc
  | removed _ _ _ _ hc => exact hP.destroy hd hc
  | _ => exact hd

theorem Keeps.dismantling (hP : Keeps P) {es es' : List Row} {d' : D}
    {result : Except TransportError Unit} (hd : P d) (h : Dismantling es d result es' d') :
    P d' := by
  induction h with
  | done => exact hd
  | resisted _ hc => exact hP.destroy hd hc
  | destroyed _ hc _ ih => exact ih (hP.destroy hd hc)

theorem Keeps.finiIn (hP : Keeps P) {order : List String} (ho : r.names ⊆ order) (hd : P d) :
    P (r.finiIn order d).2.2 := by
  have hcases := finiIn_cases d ho
  generalize r.finiIn order d = outcome at hcases ⊢
  cases hcases with
  | down => exact hd
  | stopped _ hdismantled => exact hP.dismantling hd hdismantled
  | finished _ hdismantled => exact hP.dismantling hd hdismantled

end

section
variable {r : Registry} {d : D}

omit [Transport D] in
@[simp] theorem isUp_init (r : Registry) : r.init.2.isUp = r.init.1.isOk := by
  have hcases := init_cases r
  generalize r.init = outcome at hcases ⊢
  cases hcases with
  | kept hup => exact hup
  | refused hr => simp [isUp, hr, Except.isOk, Except.toBool]
  | raised => rfl

omit [Transport D] in
theorem isOk_init (h : r.isUp) : r.init.1.isOk := by
  rw [init, if_pos h]
  rfl

@[simp] theorem isUp_register (r : Registry) (o : Owner) (d : D) :
    (r.register o d).2.1.isUp = r.isUp := by
  have hcases := register_cases r o d
  generalize r.register o d = outcome at hcases ⊢
  cases hcases with
  | down | nameless | taken | refused | full => rfl
  | entered hr => simp [isUp, hr]

@[simp] theorem isUp_unregister (r : Registry) (o : Owner) (d : D) :
    (r.unregister o d).2.1.isUp = r.isUp := by
  have hcases := unregister_cases r o d
  generalize r.unregister o d = outcome at hcases ⊢
  cases hcases with
  | down | nameless | unknown | foreign | resisted => rfl
  | removed hr => simp [isUp, hr]

theorem isUp_finiIn {order : List String} (ho : r.names ⊆ order) :
    (r.finiIn order d).2.1.isUp = (r.isUp && !(r.finiIn order d).1.isOk) := by
  have hcases := finiIn_cases d ho
  generalize r.finiIn order d = outcome at hcases ⊢
  cases hcases with
  | down hr => simp [isUp, hr]
  | stopped hr => simp [isUp, hr, Except.isOk, Except.toBool]
  | finished hr => simp [isUp, Except.isOk, Except.toBool]

theorem isUp_of_finiIn {order : List String} (ho : r.names ⊆ order)
    (h : (r.finiIn order d).2.1.isUp) : r.isUp := by
  rw [isUp_finiIn ho, Bool.and_eq_true] at h
  exact h.1

theorem finiIn_ok {order : List String} (ho : r.names ⊆ order)
    (h : (r.finiIn order d).1 = .ok ()) : (r.finiIn order d).2.1.isUp = false := by
  rw [isUp_finiIn ho, h]
  exact Bool.and_false _

end

end Registry

end LogRouting

namespace LogRouting.Registry

/-! No name stands twice, and each entry is filed under its own name with an endpoint of its own
owner on the configured topic -/

structure Sound (r : Registry) : Prop where
  names_nodup : r.names.Nodup
  key_eq : ∀ e ∈ r.rows, e.key = e.name
  endpoint_eq : ∀ e ∈ r.rows, e.endpoint = ⟨e.owner, r.config.topic⟩

theorem sound_of_down {r : Registry} (h : r.loggers = none) : r.Sound where
  names_nodup := by simp [names, rows_of_down h]
  key_eq := by simp [rows_of_down h]
  endpoint_eq := by simp [rows_of_down h]

theorem sound_init {r : Registry} (hs : r.Sound) : r.init.2.Sound where
  names_nodup := by
    rw [names, rows_init]
    exact hs.names_nodup
  key_eq := by
    rw [rows_init]
    exact hs.key_eq
  endpoint_eq := by
    rw [rows_init, config_init]
    exact hs.endpoint_eq

theorem sound_of_sublist {r : Registry} (hs : r.Sound) {es : List Row}
    (h : es.Sublist r.rows) : ({ r with loggers := some es } : Registry).Sound where
  names_nodup := (h.map Row.key).nodup hs.names_nodup
  key_eq e he := hs.key_eq e (h.subset he)
  endpoint_eq e he := hs.endpoint_eq e (h.subset he)

theorem perm_cons_without {es : List Row} {row : Row}
    (hnodup : (es.map Row.key).Nodup) (he : row ∈ es) :
    es.Perm (row :: without es row.key) := by
  induction es with
  | nil => cases he
  | cons head tail ih =>
    obtain ⟨hhead, htail⟩ := List.nodup_cons.mp hnodup
    rcases List.mem_cons.mp he with rfl | hmem
    · have hkeep : without tail row.key = tail := by
        refine List.filter_eq_self.mpr fun e htl => decide_eq_true fun heq => hhead ?_
        rw [← heq]
        exact List.mem_map_of_mem htl
      have hdrop : without (row :: tail) row.key = without tail row.key := by
        simp [without]
      rw [hdrop, hkeep]
    · have hne : head.key ≠ row.key := by
        intro heq
        rw [heq] at hhead
        exact hhead (List.mem_map_of_mem hmem)
      have hstep : without (head :: tail) row.key = head :: without tail row.key := by
        simp [without, hne]
      rw [hstep]
      exact ((ih htail hmem).cons head).trans (List.Perm.swap row head _)

variable {D : Type} [Transport D]

theorem sound_register [Transport.Faithful D] {r : Registry} (hs : r.Sound) (o : Owner) (d : D) :
    (r.register o d).2.1.Sound := by
  have hcases := register_cases r o d
  generalize r.register o d = outcome at hcases ⊢
  cases hcases with
  | down | nameless | taken | refused | full => exact hs
  | @entered es name endpoint d' hr ho hn hc hl =>
    have hes := rows_of_up hr
    have hfree : name ∉ r.names := fun h => hn (contains_iff.mpr h)
    refine ⟨?_, ?_, ?_⟩
    · have hnodup := hs.names_nodup
      rw [names, hes] at hnodup hfree
      simp only [names, rows_mk_some, List.map_append, List.map_cons, List.map_nil]
      exact List.nodup_append.mpr ⟨hnodup, List.nodup_singleton name, by
        intro a ha b hb heq
        rw [List.mem_singleton.mp hb] at heq
        exact hfree (heq ▸ ha)⟩
    · intro e he
      rcases List.mem_append.mp he with hold | hnew
      · exact hs.key_eq e (by rwa [hes])
      · rw [List.mem_singleton.mp hnew]
    · intro e he
      rcases List.mem_append.mp he with hold | hnew
      · exact hs.endpoint_eq e (by rwa [hes])
      · rw [List.mem_singleton.mp hnew]
        exact Transport.Faithful.create_eq hc

theorem sound_unregister {r : Registry} (hs : r.Sound) (o : Owner) (d : D) :
    (r.unregister o d).2.1.Sound := by
  have hcases := unregister_cases r o d
  generalize r.unregister o d = outcome at hcases ⊢
  cases hcases with
  | down | nameless | unknown | foreign | resisted => exact hs
  | @removed es name row d' hr ho hg hi hd =>
    apply sound_of_sublist hs
    rw [rows_of_up hr]
    exact without_sublist es name

theorem sound_finiIn {order : List String} {r : Registry} (hs : r.Sound) (d : D)
    (ho : r.names ⊆ order) : (r.finiIn order d).2.1.Sound := by
  have hcases := finiIn_cases d ho
  generalize r.finiIn order d = outcome at hcases ⊢
  cases hcases with
  | down => exact hs
  | @stopped es es' e d' hr hd =>
    apply sound_of_sublist hs
    rw [rows_of_up hr]
    exact hd.sublist
  | finished => exact sound_of_down rfl

end LogRouting.Registry
