import LogRouting.Proofs.Registry.Outcome
/-!
Runs of a registry over a transport: any requests in any order, made directly or through guards,
while memory runs out and comes back, the registry is lent out, and whatever else happens happens to
the transport. Main statement: `serve_cases`, by which later proofs go.
-/
namespace LogRouting

class Environment (E : outParam Type) (D : Type) where
  happen : E → D → D

namespace Journal

structure Script where
  failCreateOn : Option Nat := none
  failDestroyOn : Option Nat := none
  failPublish : Bool := false

def follow (script : Script) (j : Journal) : Journal :=
  { j with
    failCreateOn := script.failCreateOn
    failDestroyOn := script.failDestroyOn
    failPublish := script.failPublish }

instance : Environment Script Journal where
  happen := follow

variable {owner : OwnerId} {topic : String} {endpoint : Endpoint} {e : TransportError}
  {j j' : Journal}

theorem create_ok (h : Transport.create owner topic j = (.ok endpoint, j')) :
    endpoint = ⟨owner, topic⟩ ∧
      j' = { j with createCalls := j.createCalls + 1, created := j.created ++ [owner] } := by
  change create owner topic j = _ at h
  simp only [create] at h
  split at h
  · cases h
  · cases h
    exact ⟨rfl, rfl⟩

theorem create_error (h : Transport.create owner topic j = (.error e, j')) :
    j' = { j with createCalls := j.createCalls + 1 } := by
  change create owner topic j = _ at h
  simp only [create] at h
  split at h
  · cases h
    rfl
  · cases h

theorem destroy_ok (h : Transport.destroy owner endpoint j = (.ok (), j')) :
    j' = { j with destroyCalls := j.destroyCalls + 1, destroyed := j.destroyed ++ [owner] } := by
  change destroy owner endpoint j = _ at h
  simp only [destroy] at h
  split at h
  · cases h
  · cases h
    rfl

theorem destroy_error (h : Transport.destroy owner endpoint j = (.error e, j')) :
    j' = { j with destroyCalls := j.destroyCalls + 1 } := by
  change destroy owner endpoint j = _ at h
  simp only [destroy] at h
  split at h
  · cases h
    rfl
  · cases h

@[simp] theorem create_of_smooth (h : j.failCreateOn = none) (owner : OwnerId) (topic : String) :
    Transport.create owner topic j = (.ok ⟨owner, topic⟩,
      { j with createCalls := j.createCalls + 1, created := j.created ++ [owner] }) := by
  change create owner topic j = _
  simp [create, h]

@[simp] theorem destroy_of_smooth (h : j.failDestroyOn = none) (owner : OwnerId)
    (endpoint : Endpoint) :
    Transport.destroy owner endpoint j = (.ok (),
      { j with destroyCalls := j.destroyCalls + 1, destroyed := j.destroyed ++ [owner] }) := by
  change destroy owner endpoint j = _
  simp [destroy, h]

@[simp] theorem publish_eq (endpoint : Endpoint) (r : Record) (j : Journal) :
    (Transport.publish endpoint r j).2 =
      { j with published :=
        j.published ++ if j.failPublish then [] else [(endpoint.owner, r)] } := by
  change (publish endpoint r j).2 = _
  unfold publish
  split <;> simp

instance : Transport.Faithful Journal where
  create_eq h := (create_ok h).1

private theorem keeps_rest (published : List (OwnerId × Record)) (call : Option Nat) :
    Registry.Keeps fun j : Journal => j.published = published ∧ j.failDestroyOn = call where
  create {_ _ _ _ result} hj h := by
    cases result with
    | error e => rwa [create_error h]
    | ok endpoint => rwa [(create_ok h).2]
  destroy {_ _ _ _ result} hj h := by
    cases result with
    | error e => rwa [destroy_error h]
    | ok u => rwa [destroy_ok h]

end Journal

namespace Registry

/-- An order in which a teardown comes by the names of a registry, each of them once. -/
structure Order where
  arrange : List String → List String
  perm (names : List String) : (arrange names).Perm names

def Order.asEntered : Order where
  arrange := id
  perm _ := .refl _

theorem Order.covers (order : Order) (names : List String) : names ⊆ order.arrange names :=
  (order.perm names).symm.subset

/-- A guard may be one that nobody made. -/
inductive Request where
  | init
  | fini (order : Order)
  | register (o : Owner)
  | unregister (o : Owner)
  | acquire (o : Owner)
  | release (g : Guard)
  | route (e : Event)

namespace Request

def moves : Request → Bool
  | init | fini _ => true
  | _ => false

def ofGuard : Request → Bool
  | acquire _ | release _ => true
  | _ => false

def enters : Request → Option Owner
  | register o | acquire o => some o
  | _ => none

def leaves : Request → Option Owner
  | unregister o => some o
  | release g => some g.owner
  | _ => none

end Request

inductive Step (E : Type) where
  | ask (q : Request)
  | allot (memory : Memory)
  | lend (lease : Lease)
  | happen (e : E)

structure Service (D : Type) where
  registry : Shared Registry
  transport : D

namespace Service

variable {D E : Type}

def new (config : RegistryConfig) (d : D) : Service D where
  registry := ⟨{ config }, .free⟩
  transport := d

abbrev rows (s : Service D) : List Row :=
  s.registry.value.rows

def operate (op : Registry → D → Except LogError Unit × Registry × D) (s : Service D) :
    Except LogError Unit × Service D :=
  let (result, r, d) := op s.registry.value s.transport
  (result, ⟨{ s.registry with value := r }, d⟩)

section
variable (op : Registry → D → Except LogError Unit × Registry × D) (s : Service D)

@[simp] theorem fst_operate : (s.operate op).1 = (op s.registry.value s.transport).1 := rfl

@[simp] theorem registry_operate :
    (s.operate op).2.registry = ⟨(op s.registry.value s.transport).2.1, s.registry.lease⟩ := rfl

@[simp] theorem transport_operate :
    (s.operate op).2.transport = (op s.registry.value s.transport).2.2 := rfl

end

variable [Transport D]

/-- Whoever makes a request directly has the registry to himself. Guards ask for it. -/
def serve (s : Service D) : Request → Except LogError Unit × Service D
  | .init => s.operate fun r d => (r.init.1, r.init.2, d)
  | .fini order => s.operate fun r => r.finiIn (order.arrange r.names)
  | .register o => s.operate (·.register o)
  | .unregister o => s.operate (·.unregister o)
  | .acquire o =>
    let (result, registry, transport) := Guard.acquire o s.registry s.transport
    (result.map fun _ => (), ⟨registry, transport⟩)
  | .release g =>
    let (result, registry, transport) := g.release s.registry s.transport
    (result, ⟨registry, transport⟩)
  | .route e => (.ok (), { s with transport := route s.registry e s.transport })

def served (s : Service D) (requests : List Request) : Service D :=
  requests.foldl (fun s q => (s.serve q).2) s

theorem served_keeps {P : Service D → Prop} {s : Service D} (hs : P s)
    (hserve : ∀ s, P s → ∀ q, P (s.serve q).2) (requests : List Request) :
    P (s.served requests) := by
  induction requests generalizing s with
  | nil => exact hs
  | cons q requests ih => exact ih (hserve s hs q)

variable [Environment E D]

def step (s : Service D) : Step E → Service D
  | .ask q => (s.serve q).2
  | .allot memory =>
      { s with registry := { s.registry with value := s.registry.value.allot memory } }
  | .lend lease => { s with registry := { s.registry with lease } }
  | .happen e => { s with transport := Environment.happen e s.transport }

def run (s : Service D) (steps : List (Step E)) : Service D :=
  steps.foldl step s

@[simp] theorem run_nil (s : Service D) : s.run ([] : List (Step E)) = s := rfl

@[simp] theorem run_cons (s : Service D) (c : Step E) (steps : List (Step E)) :
    s.run (c :: steps) = (s.step c).run steps := rfl

@[simp] theorem run_append (s : Service D) (before after : List (Step E)) :
    s.run (before ++ after) = (s.run before).run after :=
  List.foldl_append

theorem run_ask (s : Service D) (requests : List Request) :
    s.run (requests.map (.ask : Request → Step E)) = s.served requests := by
  induction requests generalizing s with
  | nil => rfl
  | cons q requests ih => exact ih (s.serve q).2

theorem run_keeps {P : Service D → Prop} {s : Service D} {steps : List (Step E)} (hs : P s)
    (hstep : ∀ s, P s → ∀ c ∈ steps, P (s.step c)) : P (s.run steps) := by
  induction steps generalizing s with
  | nil => exact hs
  | cons c steps ih =>
    exact ih (hstep s hs c List.mem_cons_self) fun s hs c' hmem =>
      hstep s hs c' (List.mem_cons_of_mem c hmem)

section
variable (s : Service D)

theorem serve_acquire (o : Owner) : s.serve (.acquire o) =
    if s.registry.lease.mayWrite then s.serve (.register o) else (.error .registryBusy, s) := by
  by_cases hw : s.registry.lease.mayWrite
  · simp only [serve, operate, Guard.acquire, exclusively, hw, if_true]
    rcases s.registry.value.register o s.transport with ⟨_ | ⟨⟩, r, d⟩ <;> rfl
  · simp [serve, Guard.acquire, exclusively, hw, Except.map]

theorem serve_release (g : Guard) : s.serve (.release g) =
    if s.registry.lease.mayWrite then s.serve (.unregister g.owner)
    else (.error .registryBusy, s) := by
  by_cases hw : s.registry.lease.mayWrite
  · simp [serve, operate, Guard.release, exclusively, hw]
  · simp [serve, Guard.release, exclusively, hw]

end

inductive Serving (s : Service D) : Request → Except LogError Unit × Service D → Prop where
  | lent {q : Request} (hq : q.ofGuard) (hw : ¬s.registry.lease.mayWrite) :
      Serving s q (.error .registryBusy, s)
  | init : Serving s .init (s.operate fun r d => (r.init.1, r.init.2, d))
  | entering {q : Request} {o : Owner} (hq : q.enters = some o) :
      Serving s q (s.operate (·.register o))
  | leaving {q : Request} {o : Owner} (hq : q.leaves = some o) :
      Serving s q (s.operate (·.unregister o))
  | fini (order : Order) :
      Serving s (.fini order) (s.operate fun r => r.finiIn (order.arrange r.names))
  | route (e : Event) :
      Serving s (.route e) (.ok (), { s with transport := route s.registry e s.transport })

theorem serve_cases (s : Service D) (q : Request) : Serving s q (s.serve q) := by
  cases q with
  | init => exact .init
  | fini order => exact .fini order
  | register o => exact .entering rfl
  | unregister o => exact .leaving rfl
  | acquire o =>
    rw [serve_acquire]
    split
    · exact .entering rfl
    · exact .lent rfl ‹_›
  | release g =>
    rw [serve_release]
    split
    · exact .leaving rfl
    · exact .lent rfl ‹_›
  | route e => exact .route e

section
variable {s : Service D}

theorem serve_frame (s : Service D) (q : Request) : (s.serve q).2.registry =
    { s.registry with
      value := { s.registry.value with loggers := (s.serve q).2.registry.value.loggers } } := by
  have hcases := serve_cases s q
  generalize s.serve q = outcome at hcases ⊢
  cases hcases with
  | lent | route => rfl
  | init => exact congrArg (Shared.mk · s.registry.lease) (init_frame s.registry.value)
  | entering => exact congrArg (Shared.mk · s.registry.lease) (register_frame ..)
  | leaving => exact congrArg (Shared.mk · s.registry.lease) (unregister_frame ..)
  | fini order => exact congrArg (Shared.mk · s.registry.lease) (finiIn_frame (order.covers _))

theorem isUp_serve {q : Request} (hq : q.moves = false) :
    (s.serve q).2.registry.value.isUp = s.registry.value.isUp := by
  have hcases := serve_cases s q
  generalize s.serve q = outcome at hcases ⊢
  cases hcases with
  | lent | route => rfl
  | init | fini => cases hq
  | entering => exact isUp_register ..
  | leaving => exact isUp_unregister ..

theorem mem_rows_serve {q : Request} {row : Row} (h : row ∈ (s.serve q).2.rows) :
    row ∈ s.rows ∨ ¬s.registry.value.contains row.key ∧
      ∃ o, q.enters = some o ∧ o.usableName = some row.key ∧ row.owner = o.id := by
  have hcases := serve_cases s q
  generalize s.serve q = outcome at hcases h
  cases hcases with
  | init => exact .inl (by simpa [rows] using h)
  | entering hq => exact (mem_register h).imp id fun hnew => ⟨hnew.1, _, hq, hnew.2⟩
  | leaving => exact .inl (unregister_subset _ _ _ h)
  | fini order => exact .inl (finiIn_subset (order.covers _) _ h)
  | lent | route => exact .inl h

def sent (s : Service Journal) : Request → List (OwnerId × Record)
  | .route e =>
    if s.registry.lease.mayRead && !s.transport.failPublish then
      (s.registry.value.get? e.logger).toList.map fun row => (row.endpoint.owner, .ofEvent e)
    else []
  | _ => []

private theorem route_journal (s : Service Journal) (e : Event) :
    route s.registry e s.transport =
      { s.transport with published := s.transport.published ++ s.sent (.route e) } := by
  unfold route sent
  by_cases hread : s.registry.lease.mayRead
  · cases hg : s.registry.value.get? e.logger with
    | none => simp [hread, hg]
    | some row =>
      simp only [hread, hg, if_true, Journal.publish_eq]
      cases s.transport.failPublish <;> rfl
  · simp [hread]

theorem journal_serve (s : Service Journal) (q : Request) :
    (s.serve q).2.transport.published = s.transport.published ++ s.sent q ∧
      (s.serve q).2.transport.failDestroyOn = s.transport.failDestroyOn := by
  have hkeeps := Journal.keeps_rest s.transport.published s.transport.failDestroyOn
  have hcases := serve_cases s q
  generalize s.serve q = outcome at hcases ⊢
  have hnothing {j : Journal} (hq : ∀ e, q ≠ .route e)
      (hj : j.published = s.transport.published ∧ j.failDestroyOn = s.transport.failDestroyOn) :
      j.published = s.transport.published ++ s.sent q ∧
        j.failDestroyOn = s.transport.failDestroyOn := by
    have hsent : s.sent q = [] := by
      cases q with
      | route e => exact absurd rfl (hq e)
      | _ => rfl
    rwa [hsent, List.append_nil]
  cases hcases with
  | lent hq => exact hnothing (by rintro e rfl; cases hq) ⟨rfl, rfl⟩
  | init => exact hnothing (fun _ => nofun) ⟨rfl, rfl⟩
  | entering hq => exact hnothing (by rintro e rfl; cases hq) (hkeeps.register _ ⟨rfl, rfl⟩)
  | leaving hq => exact hnothing (by rintro e rfl; cases hq) (hkeeps.unregister _ ⟨rfl, rfl⟩)
  | fini order => exact hnothing (fun _ => nofun) (hkeeps.finiIn (order.covers _) ⟨rfl, rfl⟩)
  | route e =>
    rw [route_journal]
    exact ⟨rfl, rfl⟩

variable [Transport.Faithful D]

theorem sound_serve (hs : s.registry.value.Sound) (q : Request) :
    (s.serve q).2.registry.value.Sound := by
  have hcases := serve_cases s q
  generalize s.serve q = outcome at hcases ⊢
  cases hcases with
  | init => exact sound_init hs
  | entering => exact sound_register hs ..
  | leaving => exact sound_unregister hs ..
  | fini order => exact sound_finiIn hs _ (order.covers _)
  | lent | route => exact hs

theorem sound_step (hs : s.registry.value.Sound) (c : Step E) :
    (s.step c).registry.value.Sound := by
  cases c with
  | ask q => exact sound_serve hs q
  | allot memory => exact ⟨hs.names_nodup, hs.key_eq, hs.endpoint_eq⟩
  | lend | happen => exact hs

theorem sound_run (hs : s.registry.value.Sound) (steps : List (Step E)) :
    (s.run steps).registry.value.Sound :=
  run_keeps (P := (·.registry.value.Sound)) hs fun _ hs c _ => sound_step hs c

end

end Service

end Registry

end LogRouting
