import LogRouting.Proofs.Registry.Run
import Mathlib.Logic.Function.Basic
/-!
What a registry holds in every state that a run can bring it to, and what its operations may change
there. Its entries are a map from usable names, and a call that fails leaves it alone. Main
statement: `operations_atomic`.
-/
namespace LogRouting.Registry

structure Conforms (config : RegistryConfig) (r : Registry) : Prop where
  config_eq : r.config = config
  sound : r.Sound
  named : ∀ row ∈ r.rows, row.key ≠ ""
  within : ∀ max, config.maxLoggers = some max → r.size ≤ max.toNat

structure Adds (r : Registry) (row : Row) (r' : Registry) : Prop where
  free : r.get? row.key = none
  get?_eq : r'.get? = Function.update r.get? row.key (some row)
  size_eq : r'.size = r.size + 1
  config_eq : r'.config = r.config

structure Drops (r : Registry) (row : Row) (r' : Registry) : Prop where
  held : r.get? row.key = some row
  get?_eq : r'.get? = Function.update r.get? row.key none
  size_eq : r'.size + 1 = r.size
  config_eq : r'.config = r.config
  up : r'.isUp

variable {config : RegistryConfig} {r : Registry} {o : Owner} {name : String}

theorem adds_append {es : List Row} {row : Row} (hr : r.loggers = some es)
    (hn : ¬r.contains row.key) : r.Adds row { r with loggers := some (es ++ [row]) } where
  free := get?_eq_none hn
  get?_eq := by
    funext name
    have hfree := get?_eq_none hn
    unfold get? at *
    rw [rows_of_up hr] at *
    rw [rows_mk_some, List.find?_append]
    by_cases hname : name = row.key
    · subst hname
      rw [hfree, Function.update_self]
      simp
    · rw [Function.update_of_ne hname]
      simp [Ne.symm hname]
  size_eq := by
    unfold size
    rw [rows_of_up hr, rows_mk_some]
    simp
  config_eq := rfl

theorem get?_without {es : List Row} (hr : r.loggers = some es) (name : String) :
    ({ r with loggers := some (without es name) } : Registry).get? =
      Function.update r.get? name none := by
  funext other
  unfold get?
  rw [rows_of_up hr, rows_mk_some, without, List.find?_filter]
  by_cases hother : other = name
  · subst hother
    rw [Function.update_self]
    simp
  · rw [Function.update_of_ne hother]
    congr 1
    funext x
    by_cases hx : x.key = other <;> simp [hx, hother]

private theorem drops_without {es : List Row} {row : Row} (hnodup : r.names.Nodup)
    (hr : r.loggers = some es) (he : r.get? row.key = some row) :
    r.Drops row { r with loggers := some (without es row.key) } where
  held := he
  get?_eq := get?_without hr row.key
  size_eq := by
    have hmem := mem_of_get? he
    rw [names, rows_of_up hr] at hnodup
    rw [rows_of_up hr] at hmem
    unfold size
    rw [rows_of_up hr, rows_mk_some]
    exact (perm_cons_without hnodup hmem).length_eq.symm
  config_eq := rfl
  up := rfl

private theorem conforms_new (config : RegistryConfig) : Conforms config { config } where
  config_eq := rfl
  sound := sound_of_down rfl
  named := by simp
  within := by simp [size]

private theorem conforms_init (h : r.Conforms config) : r.init.2.Conforms config where
  config_eq := by rw [config_init, h.config_eq]
  sound := sound_init h.sound
  named := by
    rw [rows_init]
    exact h.named
  within := by
    rw [size, rows_init]
    exact h.within

private theorem conforms_of_sublist (h : r.Conforms config) {es : List Row}
    (hes : es.Sublist r.rows) : ({ r with loggers := some es } : Registry).Conforms config where
  config_eq := h.config_eq
  sound := sound_of_sublist h.sound hes
  named row hrow := h.named row (hes.subset hrow)
  within max hmax := Nat.le_trans hes.length_le (h.within max hmax)

section
variable {D : Type} [Transport D] {d : D}

private theorem conforms_register [Transport.Faithful D] (h : r.Conforms config) (o : Owner)
    (d : D) : (r.register o d).2.1.Conforms config := by
  have hsound := sound_register h.sound o d
  have hcases := register_cases r o d
  generalize r.register o d = outcome at hcases hsound ⊢
  cases hcases with
  | down | nameless | taken | refused | full => exact h
  | @entered es name endpoint d' hr ho hn hc hl =>
    have hes := rows_of_up hr
    refine ⟨h.config_eq, hsound, ?_, ?_⟩
    · intro row hrow
      rcases List.mem_append.mp hrow with hold | hnew
      · exact h.named row (by rwa [hes])
      · rw [List.mem_singleton.mp hnew]
        exact (Owner.usableName_eq_some.mp ho).2
    · intro max hmax
      -- the limit let one more entry in
      have hlimit := limit?_of_shortage? hl
      rw [limit?, h.config_eq, hmax] at hlimit
      have hroom : ¬max.toNat ≤ r.size := by simpa using hlimit
      simp only [size, rows_mk_some, hes, List.length_append, List.length_singleton] at hroom ⊢
      omega

private theorem conforms_unregister (h : r.Conforms config) (o : Owner) (d : D) :
    (r.unregister o d).2.1.Conforms config := by
  have hcases := unregister_cases r o d
  generalize r.unregister o d = outcome at hcases ⊢
  cases hcases with
  | down | nameless | unknown | foreign | resisted => exact h
  | @removed es name row d' hr ho hg hi hd =>
    apply conforms_of_sublist h
    rw [rows_of_up hr]
    exact without_sublist es name

private theorem conforms_finiIn {order : List String} (h : r.Conforms config)
    (ho : r.names ⊆ order) (d : D) : (r.finiIn order d).2.1.Conforms config := by
  have hsound := sound_finiIn h.sound d ho
  have hcases := finiIn_cases d ho
  generalize r.finiIn order d = outcome at hcases hsound ⊢
  cases hcases with
  | down => exact h
  | @stopped es es' e d' hr hd =>
    apply conforms_of_sublist h
    rw [rows_of_up hr]
    exact hd.sublist
  | finished => exact ⟨h.config_eq, hsound, by simp, by simp [size]⟩

private theorem register_error {e : LogError} (h : (r.register o d).1 = .error e) :
    (r.register o d).2.1 = r := by
  have hcases := register_cases r o d
  generalize r.register o d = outcome at hcases h ⊢
  cases hcases with
  | entered => cases h
  | _ => rfl

private theorem unregister_error {e : LogError} (h : (r.unregister o d).1 = .error e) :
    (r.unregister o d).2.1 = r := by
  have hcases := unregister_cases r o d
  generalize r.unregister o d = outcome at hcases h ⊢
  cases hcases with
  | removed => cases h
  | _ => rfl

private theorem register_ok [Transport.Faithful D] (hup : r.isUp)
    (h : (r.register o d).1 = .ok ()) :
    ∃ name, o.loggerName = some name ∧ name ≠ "" ∧
      r.Adds ⟨⟨name, o.id, ⟨o.id, r.config.topic⟩⟩, name⟩ (r.register o d).2.1 := by
  obtain ⟨es, hes⟩ := up_of_isUp hup
  have hcases := register_cases r o d
  generalize r.register o d = outcome at hcases h ⊢
  cases hcases with
  | down hr =>
    rw [hr] at hes
    cases hes
  | @entered es name endpoint d' hr ho hn hc hl =>
    obtain ⟨hname, hne⟩ := Owner.usableName_eq_some.mp ho
    rw [Transport.Faithful.create_eq hc]
    exact ⟨name, hname, hne, adds_append hr hn⟩
  | _ => cases h

private theorem unregister_ok (hnodup : r.names.Nodup) (hup : r.isUp)
    (h : (r.unregister o d).1 = .ok ()) :
    ∃ row, o.loggerName = some row.key ∧ row.owner = o.id ∧
      r.Drops row (r.unregister o d).2.1 := by
  obtain ⟨es, hes⟩ := up_of_isUp hup
  have hcases := unregister_cases r o d
  generalize r.unregister o d = outcome at hcases h ⊢
  cases hcases with
  | down hr =>
    rw [hr] at hes
    cases hes
  | @removed es name row d' hr ho hg hi hd =>
    have hname := key_of_get? hg
    subst hname
    exact ⟨row, (Owner.usableName_eq_some.mp ho).1, hi, drops_without hnodup hr hg⟩
  | _ => cases h

/-- Owners that are turned away for their name, or for whom it is filed under. The transport is not
called for them. -/
structure Rejects (r : Registry) (o : Owner) (d : D) : Prop where
  register_nameless : o.loggerName.getD "" = "" →
    r.register o d = (.error (nameless o.id), r, d)
  unregister_nameless : o.loggerName.getD "" = "" →
    r.unregister o d = (.error (.unresolvedOwner o.id), r, d)
  register_taken (name : String) : o.usableName = some name → r.contains name →
    r.register o d = (.error (.alreadyInit name), r, d)
  unregister_foreign (name : String) : o.usableName = some name →
    (∀ row, r.get? name = some row → row.owner ≠ o.id) →
    r.unregister o d = (.error (.notInit name), r, d)

private theorem rejects_of_isUp (hup : r.isUp) (o : Owner) (d : D) : r.Rejects o d := by
  obtain ⟨es, hes⟩ := up_of_isUp hup
  constructor
  · intro hname
    simp only [register, hes, Owner.usableName_eq_none.mpr hname]
  · intro hname
    simp only [unregister, hes, Owner.usableName_eq_none.mpr hname]
  · intro name ho hn
    simp only [register, hes, ho, hn, if_true]
  · intro name ho hforeign
    cases hg : r.get? name with
    | none => simp only [unregister, hes, ho, hg]
    | some row =>
      simp only [unregister, hes, ho, hg, hforeign row hg, ne_eq, not_false_eq_true, if_true]

end

namespace Service

variable {D E : Type} [Transport D] [Transport.Faithful D] [Environment E D] {s : Service D}

theorem conforms_step (hs : s.registry.value.Conforms config) (c : Step E) :
    (s.step c).registry.value.Conforms config := by
  cases c with
  | ask q =>
    dsimp only [step]
    have hcases := serve_cases s q
    generalize s.serve q = outcome at hcases ⊢
    cases hcases with
    | lent | route => exact hs
    | init => exact conforms_init hs
    | entering => exact conforms_register hs ..
    | leaving => exact conforms_unregister hs ..
    | fini order => exact conforms_finiIn hs (order.covers _) _
  | allot memory =>
    exact ⟨hs.config_eq, ⟨hs.sound.names_nodup, hs.sound.key_eq, hs.sound.endpoint_eq⟩, hs.named,
      hs.within⟩
  | lend | happen => exact hs

theorem conforms_run (config : RegistryConfig) (d : D) (steps : List (Step E)) :
    ((new config d).run steps).registry.value.Conforms config :=
  run_keeps (P := (·.registry.value.Conforms config)) (conforms_new config)
    fun _ hs c _ => conforms_step hs c

end Service

/-- Wherever a run has come to, and whatever its transport or the allocator refused: each entry is
filed under its own name, with an endpoint of its owner on the configured topic, and there are no
more entries than are allowed. From there on a call that fails changes no entry, one that succeeds
changes one, and one that is turned away for its name or its owner does not call the transport. -/
theorem operations_atomic {D E : Type} [Transport D] [Transport.Faithful D] [Environment E D]
    (config : RegistryConfig) (start : D) (steps : List (Step E)) :
    let r := ((Service.new config start).run steps).registry.value
    (∀ row ∈ r.rows, row.key = row.name ∧ row.name ≠ "" ∧
      row.endpoint = ⟨row.owner, config.topic⟩) ∧
    r.names.Nodup ∧
    (∀ max, config.maxLoggers = some max → r.size ≤ max.toNat) ∧
    ∀ (o : Owner) (d : D),
      (∀ e, (r.register o d).1 = .error e → (r.register o d).2.1 = r) ∧
      (∀ e, (r.unregister o d).1 = .error e → (r.unregister o d).2.1 = r) ∧
      (r.isUp →
        ((r.register o d).1 = .ok () → ∃ name, o.loggerName = some name ∧ name ≠ "" ∧
          r.Adds ⟨⟨name, o.id, ⟨o.id, config.topic⟩⟩, name⟩ (r.register o d).2.1) ∧
        ((r.unregister o d).1 = .ok () → ∃ row, o.loggerName = some row.key ∧ row.owner = o.id ∧
          r.Drops row (r.unregister o d).2.1) ∧
        r.Rejects o d) := by
  intro r
  have hconforms : r.Conforms config := Service.conforms_run config start steps
  refine ⟨fun row hrow => ?_, hconforms.sound.names_nodup, hconforms.within, fun o d => ?_⟩
  · have hkey := hconforms.sound.key_eq row hrow
    have hendpoint := hconforms.sound.endpoint_eq row hrow
    rw [hconforms.config_eq] at hendpoint
    exact ⟨hkey, hkey ▸ hconforms.named row hrow, hendpoint⟩
  · refine ⟨fun e => register_error, fun e => unregister_error, fun hup => ⟨?_, ?_, ?_⟩⟩
    · intro hok
      rw [← hconforms.config_eq]
      exact register_ok hup hok
    · exact unregister_ok hconforms.sound.names_nodup hup
    · exact rejects_of_isUp hup o d

/-- One entry is there and the next does not fit, first for want of memory, then for the limit; its
endpoint cannot be taken back. Meanwhile a third owner asks for the name that is taken. -/
theorem operations_atomic_at_limit :
    let steps : List (Step Journal.Script) :=
      [.ask .init, .ask (.register ⟨⟨1⟩, some "nav"⟩), .allot { entry := false }]
    let r (max : Option UInt64) :=
      ((Service.new { maxLoggers := max } ({} : Journal)).run steps).registry.value
    let arm : Owner := ⟨⟨2⟩, some "arm"⟩
    let resisting : Journal := { failDestroyOn := some 1 }
    (r none).isUp ∧ (r none).names = ["nav"] ∧
      ((r none).register arm resisting).1 = .error (noRoom "grow" refused) ∧
      ((r none).register arm resisting).2.1 = r none ∧
      ((r (some 1)).register arm resisting).1 = .error (limitReached 1) ∧
      ((r (some 1)).register arm resisting).2.1 = r (some 1) ∧
      (r none).unregister ⟨⟨3⟩, some "nav"⟩ ({} : Journal) =
        (.error (.notInit "nav"), r none, {}) := by
  intro steps r arm resisting
  obtain ⟨-, -, -, hcalls⟩ := operations_atomic {} ({} : Journal) steps
  obtain ⟨-, -, -, hlimited⟩ := operations_atomic { maxLoggers := some 1 } ({} : Journal) steps
  refine ⟨by decide, by decide, by decide, ?_, by decide, ?_, ?_⟩
  · exact (hcalls arm resisting).1 (noRoom "grow" refused) (by decide)
  · exact (hlimited arm resisting).1 (limitReached 1) (by decide)
  · obtain ⟨-, -, hup⟩ := hcalls ⟨⟨3⟩, some "nav"⟩ ({} : Journal)
    obtain ⟨-, -, hrejects⟩ := hup (by decide)
    exact hrejects.unregister_foreign "nav" (by decide) (by decide)

end LogRouting.Registry
