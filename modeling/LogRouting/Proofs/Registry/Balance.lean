import LogRouting.Proofs.Registry.Run
import Mathlib.Algebra.Order.Group.Multiset
/-!
Accounting for endpoints. Every endpoint that was ever created has been destroyed, is held by an
entry, or got lost when there was no room for an entry and it could not be destroyed again.
Main statement: `Service.endpoints_accounted_for`.
-/
namespace LogRouting.Registry

def owners (r : Registry) : List OwnerId :=
  r.rows.map (·.owner)

/-- An endpoint that nobody holds, and what its owner was told. -/
structure Loss where
  owner : OwnerId
  cause : LogError
  deriving DecidableEq

/-- What is lost by a registration that fails for want of room, if the one destroy call that was to
take its endpoint back destroys nothing. -/
def lossOf (o : Owner) (j : Journal) : Except LogError Unit → Journal → List Loss
  | .error (.badAlloc reason), j' =>
    if j'.destroyCalls = j.destroyCalls + 1 ∧ j'.destroyed = j.destroyed then
      [⟨o.id, .badAlloc reason⟩]
    else []
  | _, _ => []

/-- What is created and not destroyed is held, but for what is lost. Counted owner by owner. -/
def Balanced (r : Registry) (j : Journal) (lost : List Loss) : Prop :=
  ∀ id, j.created.count id =
    j.destroyed.count id + r.owners.count id + (lost.map (·.owner)).count id

section
variable {r : Registry} {j : Journal} {lost : List Loss}

private theorem owners_of_up {es : List Row} (h : r.loggers = some es) :
    r.owners = es.map (·.owner) := by
  rw [owners, rows_of_up h]

private theorem balanced_init (hb : r.Balanced j lost) : r.init.2.Balanced j lost := by
  unfold Balanced owners at *
  rwa [rows_init]

private theorem balanced_register (o : Owner) (hb : r.Balanced j lost) :
    (r.register o j).2.1.Balanced (r.register o j).2.2
      (lost ++ lossOf o j (r.register o j).1 (r.register o j).2.2) := by
  have hcases := register_cases r o j
  generalize r.register o j = outcome at hcases ⊢
  intro id
  have hid := hb id
  cases hcases with
  | down | nameless | taken => simpa [lossOf, nameless] using hid
  | refused hr ho hn hc =>
    rw [Journal.create_error hc]
    simpa [lossOf] using hid
  | @full es name endpoint e j' hr ho hn hc hl =>
    have hj := (Journal.create_ok hc).2
    obtain ⟨reason, rfl⟩ := badAlloc_of_shortage? hl
    rcases hd : Transport.destroy o.id endpoint j' with ⟨e | ⟨⟩, j''⟩
    · -- the endpoint stays behind, so its owner is counted as lost
      rw [Journal.destroy_error hd, hj]
      simp only [lossOf, and_self, if_true, List.count_append, List.map_append, List.map_cons,
        List.map_nil]
      omega
    · rw [Journal.destroy_ok hd, hj]
      simp only [lossOf, List.count_append, List.map_append]
      simp
      omega
  | @entered es name endpoint j' hr ho hn hc hl =>
    rw [(Journal.create_ok hc).2]
    rw [owners_of_up hr] at hid
    simp only [lossOf, owners, rows_mk_some, List.map_append, List.count_append, List.map_cons,
      List.map_nil, List.count_nil]
    omega

private theorem balanced_unregister (o : Owner) (hs : r.Sound) (hb : r.Balanced j lost) :
    (r.unregister o j).2.1.Balanced (r.unregister o j).2.2 lost := by
  have hcases := unregister_cases r o j
  generalize r.unregister o j = outcome at hcases ⊢
  intro id
  have hid := hb id
  cases hcases with
  | down | nameless | unknown | foreign => exact hid
  | resisted hr ho hg hi hd =>
    rw [Journal.destroy_error hd]
    exact hid
  | @removed es name row j' hr ho hg hi hd =>
    rw [Journal.destroy_ok hd]
    have hperm := (perm_cons_without hs.names_nodup (mem_of_get? hg)).map fun row : Row => row.owner
    have hcount := hperm.count_eq id
    rw [key_of_get? hg, rows_of_up hr] at hcount
    rw [owners_of_up hr] at hid
    simp only [owners, rows_mk_some, List.count_append]
    simp only [List.map_cons, List.count_cons, List.count_nil] at hcount ⊢
    omega

theorem dismantling_count {es es' : List Row} {result : Except TransportError Unit}
    {j j' : Journal} (h : Dismantling es j result es' j') (hnodup : (es.map Row.key).Nodup)
    (id : OwnerId) :
    j'.created = j.created ∧
      j.destroyed.count id + (es.map (·.owner)).count id =
        j'.destroyed.count id + (es'.map (·.owner)).count id := by
  induction h with
  | done es j => exact ⟨rfl, rfl⟩
  | resisted he hd =>
    rw [Journal.destroy_error hd]
    exact ⟨rfl, rfl⟩
  | @destroyed es es' row result j j₁ j₂ he hd hrest ih =>
    have hsub := (without_sublist es row.key).map Row.key
    obtain ⟨hcreated, hcount⟩ := ih (hsub.nodup hnodup)
    have hperm := ((perm_cons_without hnodup he).map fun row : Row => row.owner).count_eq id
    rw [Journal.destroy_ok hd] at hcreated hcount
    refine ⟨hcreated, ?_⟩
    simp only [List.map_cons, List.count_cons, List.count_append, List.count_nil] at hperm hcount
    omega

private theorem balanced_finiIn {order : List String} (hs : r.Sound) (hb : r.Balanced j lost)
    (ho : r.names ⊆ order) : (r.finiIn order j).2.1.Balanced (r.finiIn order j).2.2 lost := by
  have hcases := finiIn_cases j ho
  generalize r.finiIn order j = outcome at hcases ⊢
  intro id
  have hid := hb id
  have hnodup := hs.names_nodup
  cases hcases with
  | down => exact hid
  | @stopped es es' e j' hr hd =>
    rw [names, rows_of_up hr] at hnodup
    rw [owners_of_up hr] at hid
    obtain ⟨hcreated, hcount⟩ := dismantling_count hd hnodup id
    simp only [owners, rows_mk_some, hcreated]
    omega
  | @finished es j' hr hd =>
    rw [names, rows_of_up hr] at hnodup
    rw [owners_of_up hr] at hid
    obtain ⟨hcreated, hcount⟩ := dismantling_count hd hnodup id
    simp only [owners, rows_mk_none, hcreated]
    omega

private theorem balanced_route (s : Shared Registry) (e : Event) (hb : r.Balanced j lost) :
    r.Balanced (route s e j) lost := by
  unfold route
  split
  · cases s.value.get? e.logger with
    | none => exact hb
    | some row =>
      dsimp only
      rw [Journal.publish_eq]
      exact hb
  · exact hb

private theorem cause_of_lossOf {o : Owner} {loss : Loss} (hm : r.memory.entry)
    (h : loss ∈ lossOf o j (r.register o j).1 (r.register o j).2.2) :
    ∃ max, r.config.maxLoggers = some max ∧ loss.cause = limitReached max := by
  have hcases := register_cases r o j
  generalize r.register o j = outcome at hcases h
  cases hcases with
  | @full es name endpoint e j' hr ho hn hc hl =>
    obtain ⟨max, hlimit, rfl⟩ : ∃ max, r.limit? = some max ∧ e = limitReached max := by
      unfold shortage? at hl
      cases hlimit : r.limit? with
      | none => simp [hlimit, hm] at hl
      | some max => exact ⟨max, rfl, by simpa [hlimit] using hl.symm⟩
    refine ⟨max, (Option.filter_eq_some_iff.mp hlimit).1, ?_⟩
    simp only [lossOf, limitReached] at h
    split at h
    · rw [List.mem_singleton.mp h]
      rfl
    · cases h
  | down | nameless | taken | refused | entered => cases h

end

theorem Request.enters_of_leaves {q : Request} {o : Owner} (h : q.leaves = some o) :
    q.enters = none := by
  cases q <;> simp_all [enters, leaves]

namespace Service

def lostBy (s : Service Journal) : Step Journal.Script → List Loss
  | .ask q => q.enters.toList.flatMap fun o =>
      lossOf o s.transport (s.serve q).1 (s.serve q).2.transport
  | _ => []

def lost (s : Service Journal) : List (Step Journal.Script) → List Loss
  | [] => []
  | c :: steps => s.lostBy c ++ (s.step c).lost steps

variable {s : Service Journal} {before : List Loss}

theorem balanced_serve (hs : s.registry.value.Sound)
    (hb : s.registry.value.Balanced s.transport before) (q : Request) :
    (s.serve q).2.registry.value.Balanced (s.serve q).2.transport
      (before ++ s.lostBy (.ask q)) := by
  have hcases := serve_cases s q
  dsimp only [lostBy]
  generalize s.serve q = outcome at hcases ⊢
  cases hcases with
  | lent => cases q.enters <;> simpa [lossOf] using hb
  | init => simpa [Request.enters] using balanced_init hb
  | entering hq => simpa [hq] using balanced_register _ hb
  | leaving hq => simpa [Request.enters_of_leaves hq] using balanced_unregister _ hs hb
  | fini order => simpa [Request.enters] using balanced_finiIn hs hb (order.covers _)
  | route e => simpa [Request.enters] using balanced_route s.registry e hb

theorem balanced_step (hs : s.registry.value.Sound)
    (hb : s.registry.value.Balanced s.transport before) (c : Step Journal.Script) :
    (s.step c).registry.value.Balanced (s.step c).transport (before ++ s.lostBy c) := by
  cases c with
  | ask q => exact balanced_serve hs hb q
  | allot | lend | happen =>
    dsimp only [lostBy]
    rw [List.append_nil]
    exact hb

theorem balanced_run (hs : s.registry.value.Sound)
    (hb : s.registry.value.Balanced s.transport before) (steps : List (Step Journal.Script)) :
    (s.run steps).registry.value.Balanced (s.run steps).transport (before ++ s.lost steps) := by
  induction steps generalizing s before with
  | nil => simpa [lost] using hb
  | cons c steps ih =>
    have hrest := ih (sound_step hs c) (balanced_step hs hb c)
    rwa [List.append_assoc] at hrest

private theorem cause_of_mem_lost {steps : List (Step Journal.Script)} {loss : Loss}
    (hs : s.registry.value.memory.entry)
    (hsteps : ∀ memory, .allot memory ∈ steps → memory.entry) (h : loss ∈ s.lost steps) :
    ∃ max, s.registry.value.config.maxLoggers = some max ∧ loss.cause = limitReached max := by
  induction steps generalizing s with
  | nil => cases h
  | cons c steps ih =>
    -- what the induction needs: memory is still granted, and the limit is still the same
    have hmemory : (s.step c).registry.value.memory.entry := by
      cases c with
      | ask q => exact (congrArg (·.value.memory.entry) (serve_frame s q)).trans hs
      | allot memory => exact hsteps memory List.mem_cons_self
      | lend | happen => exact hs
    have hconfig : (s.step c).registry.value.config = s.registry.value.config := by
      cases c with
      | ask q => exact congrArg (·.value.config) (serve_frame s q)
      | allot | lend | happen => rfl
    rcases List.mem_append.mp h with hnow | hlater
    · cases c with
      | ask q =>
        have hcases := serve_cases s q
        dsimp only [lostBy] at hnow
        generalize s.serve q = outcome at hcases hnow
        cases hcases with
        | entering hq => exact cause_of_lossOf hs (by simpa [hq] using hnow)
        | leaving hq => simp [Request.enters_of_leaves hq] at hnow
        | lent => simp [lossOf] at hnow
        | init | fini | route => cases hnow
      | allot | lend | happen => cases hnow
    · rw [← hconfig]
      exact ih hmemory (fun memory hmem => hsteps memory (List.mem_cons_of_mem c hmem)) hlater

/-- However a run mixes its requests and wherever its transport fails: each owner has had as many
endpoints created as were destroyed, stand in the registry, or got lost for want of room; and the
only want that a run knows whose memory is granted is the limit. -/
theorem endpoints_accounted_for (config : RegistryConfig) (steps : List (Step Journal.Script)) :
    let start : Service Journal := new config {}
    let s := start.run steps
    let lost := start.lost steps
    (s.transport.created : Multiset OwnerId) =
        s.transport.destroyed + s.registry.value.owners + lost.map (·.owner) ∧
      ((∀ memory, .allot memory ∈ steps → memory.entry) →
        ∀ loss ∈ lost, ∃ max, config.maxLoggers = some max ∧ loss.cause = limitReached max) ∧
      (s.transport.destroyed : Multiset OwnerId) ≤ s.transport.created ∧
      s.transport.live = s.registry.value.size + lost.length ∧
      (lost = [] → s.transport.live = s.registry.value.size) := by
  intro start s lost
  have hb : s.registry.value.Balanced s.transport ([] ++ lost) :=
    balanced_run (sound_of_down rfl) (fun id => by simp [start, new, owners]) steps
  have hsum : (s.transport.created : Multiset OwnerId) =
      s.transport.destroyed + s.registry.value.owners + lost.map (·.owner) := by
    ext id
    simpa [add_assoc] using hb id
  have hlength : s.transport.created.length =
      s.transport.destroyed.length + s.registry.value.size + lost.length := by
    simpa [owners, size, add_assoc] using congrArg Multiset.card hsum
  have hlive : s.transport.live = s.registry.value.size + lost.length := by
    unfold Journal.live
    omega
  refine ⟨hsum, fun hsteps loss hloss => cause_of_mem_lost rfl hsteps hloss, ?_, hlive,
    fun hnone => ?_⟩
  · rw [hsum, add_assoc]
    exact Multiset.le_add_right _ _
  · rw [hlive, hnone, List.length_nil, Nat.add_zero]

example :
    (new { maxLoggers := some 0 } {}).lost
      [.ask .init, .happen { failDestroyOn := some 1 }, .ask (.register ⟨⟨7⟩, some "arm"⟩)] =
      [⟨⟨7⟩, limitReached 0⟩] := by
  decide

end Service

end LogRouting.Registry
