import LogRouting.Proofs.Registry.Atomicity
import Mathlib.Data.List.InsertIdx
/-!
What a guard takes with it when it goes. It knows its endpoint by name and owner alone and may
outlive it, so a run is dated here: each of its entries by the move that entered it, each guard by
the move that made it. Main statement: `release_takes_claimed`.
-/
namespace LogRouting

def Guard.claims (g : Guard) (row : Row) : Bool :=
  row.key = g.name && row.owner = g.id

theorem Guard.claims_iff {g : Guard} {row : Row} :
    g.claims row ↔ row.key = g.name ∧ row.owner = g.id := by
  simp [claims]

namespace Registry

section
variable {r : Registry} {config : RegistryConfig} {row : Row} {g : Guard} {j : Journal}

theorem filter_claims_of_mem (hnodup : r.names.Nodup) (hrow : row ∈ r.rows) (hg : g.claims row) :
    r.rows.filter g.claims = [row] := by
  apply List.perm_singleton.mp
  have hname := (Guard.claims_iff.mp hg).1
  have hrest : (without r.rows row.key).filter g.claims = [] := by
    rw [List.filter_eq_nil_iff]
    intro x hx hclaims
    have hne : x.key ≠ row.key := by simpa using (List.mem_filter.mp hx).2
    exact hne ((Guard.claims_iff.mp hclaims).1.trans hname.symm)
  have hperm := (perm_cons_without hnodup hrow).filter g.claims
  rwa [List.filter_cons_of_pos hg, hrest] at hperm

private theorem length_filter_claims_le (hnodup : r.names.Nodup) (g : Guard) :
    (r.rows.filter g.claims).length ≤ 1 := by
  cases hmine : r.rows.filter g.claims with
  | nil => exact Nat.zero_le 1
  | cons row mine =>
    have hmem : row ∈ r.rows.filter g.claims := by simp [hmine]
    obtain ⟨hrow, hclaims⟩ := List.mem_filter.mp hmem
    rw [← hmine, filter_claims_of_mem hnodup hrow hclaims]
    exact Nat.le_refl 1

private theorem without_eq_filter (hnodup : r.names.Nodup) (hrow : row ∈ r.rows)
    (hg : g.claims row) : without r.rows row.key = r.rows.filter (!g.claims ·) := by
  apply List.filter_congr
  intro x hx
  have hname := (Guard.claims_iff.mp hg).1
  by_cases h : x.key = row.key
  · have heq : x = row := List.inj_on_of_nodup_map hnodup hx hrow h
    rw [heq, hg]
    simp
  · have hnot : g.claims x = false := by
      simp [Guard.claims, ← hname, h]
    simp [h, hnot]

structure Relinquished (g : Guard) (r : Registry) (j : Journal) (r' : Registry) (j' : Journal) :
    Prop where
  config_eq : r'.config = r.config
  up_eq : r'.isUp = r.isUp
  rows_eq : r'.rows = r.rows.filter (!g.claims ·)
  journal_eq : j' = { j with
    destroyCalls := j.destroyCalls + (r.rows.filter g.claims).length
    destroyed := j.destroyed ++ (r.rows.filter g.claims).map (·.owner) }

private theorem Relinquished.mem_or_claims {r' : Registry} {j' : Journal}
    (h : Relinquished g r j r' j')
    (hrow : row ∈ r.rows) : row ∈ r'.rows ∨ g.claims row := by
  by_cases hclaims : g.claims row
  · exact .inr hclaims
  · rw [h.rows_eq]
    exact .inl (List.mem_filter.mpr ⟨hrow, by simpa using hclaims⟩)

private theorem relinquished_of_unclaimed (h : ∀ row ∈ r.rows, ¬g.claims row) :
    Relinquished g r j r j := by
  have hnone : r.rows.filter g.claims = [] := List.filter_eq_nil_iff.mpr h
  refine ⟨rfl, rfl, ?_, ?_⟩
  · rw [List.filter_eq_self.mpr]
    intro row hrow
    simpa using h row hrow
  · rw [hnone]
    simp

theorem relinquished_unregister (hr : r.Conforms config) (hj : j.failDestroyOn = none)
    (g : Guard) :
    Relinquished g r j (r.unregister g.owner j).2.1 (r.unregister g.owner j).2.2 := by
  have hnodup := hr.sound.names_nodup
  have hname {name : String} (ho : g.owner.usableName = some name) : g.name = name := by
    simpa [Guard.owner] using (Owner.usableName_eq_some.mp ho).1
  have hcases := unregister_cases r g.owner j
  generalize r.unregister g.owner j = outcome at hcases ⊢
  cases hcases with
  | down hdown =>
    apply relinquished_of_unclaimed
    simp [rows_of_down hdown]
  | nameless hup ho =>
    apply relinquished_of_unclaimed
    intro row hrow hclaims
    apply hr.named row hrow
    rw [(Guard.claims_iff.mp hclaims).1]
    simpa [Guard.owner, Owner.usableName] using ho
  | @unknown es name hup ho hg =>
    apply relinquished_of_unclaimed
    intro row hrow hclaims
    have hne := List.find?_eq_none.mp hg row hrow
    simp [(Guard.claims_iff.mp hclaims).1, hname ho] at hne
  | @foreign es name found hup ho hg hi =>
    apply relinquished_of_unclaimed
    intro row hrow hclaims
    have heq : row = found := List.inj_on_of_nodup_map hnodup hrow (mem_of_get? hg) (by
      rw [(Guard.claims_iff.mp hclaims).1, hname ho, key_of_get? hg])
    exact hi (heq ▸ (Guard.claims_iff.mp hclaims).2)
  | @resisted es name found e d' hup ho hg hi hd =>
    rw [Journal.destroy_of_smooth hj] at hd
    cases hd
  | @removed es name found d' hup ho hg hi hd =>
    rw [Journal.destroy_of_smooth hj] at hd
    cases hd
    -- the entry that goes is claimed, and as names stand once it is the only one
    have hclaims : g.claims found :=
      Guard.claims_iff.mpr ⟨(key_of_get? hg).trans (hname ho).symm, hi⟩
    have hmine := filter_claims_of_mem hnodup (mem_of_get? hg) hclaims
    have hrest := without_eq_filter hnodup (mem_of_get? hg) hclaims
    rw [key_of_get? hg, rows_of_up hup] at hrest
    refine ⟨rfl, by simp [isUp, hup], ?_, ?_⟩
    · rw [rows_mk_some, rows_of_up hup, hrest]
    · rw [hmine]
      rfl

end

structure Service.Calm (s : Service Journal) : Prop where
  free : s.registry.lease = .free
  smooth : s.transport.failDestroyOn = none

def Step.Smooth : Step Journal.Script → Prop
  | .happen s => s.failDestroyOn = none
  | .lend _ => False
  | _ => True

theorem Service.calm_step {s : Service Journal} (hs : s.Calm) {c : Step Journal.Script}
    (hc : c.Smooth) : (s.step c).Calm := by
  cases c with
  | ask q =>
    refine ⟨(congrArg Shared.lease (serve_frame s q)).trans hs.free, ?_⟩
    exact (journal_serve s q).2.trans hs.smooth
  | allot memory => exact ⟨hs.free, hs.smooth⟩
  | lend lease => exact hc.elim
  | happen script => exact ⟨hs.free, hc⟩

inductive Move where
  | take (c : Step Journal.Script)
  | drop (slot : Nat)

def Move.Smooth : Move → Prop
  | .take c => c.Smooth
  | .drop _ => True

/-- A run whose moves are numbered: each name comes with the number of the move that entered it
last, and each guard with that of the move that made it. -/
structure Chronicle where
  service : Service Journal
  clock : Nat := 0
  entered : String → Nat := fun _ => 0
  held : List (Guard × Nat) := []

namespace Chronicle

def new (config : RegistryConfig) : Chronicle where
  service := .new config {}

def steps (c : Chronicle) : Move → List (Step Journal.Script)
  | .take step => [step]
  | .drop slot => (c.held[slot]?).toList.map fun p => .ask (.release p.1)

def heldAfter (c : Chronicle) : Move → List (Guard × Nat)
  | .take (.ask (.acquire o)) =>
    match (Guard.acquire o c.service.registry c.service.transport).1 with
    | .ok g => c.held ++ [(g, c.clock)]
    | .error _ => c.held
  | .take _ => c.held
  | .drop slot => c.held.eraseIdx slot

def move (c : Chronicle) (m : Move) : Chronicle where
  service := c.service.run (c.steps m)
  clock := c.clock + 1
  entered name := if c.service.registry.value.contains name then c.entered name else c.clock
  held := c.heldAfter m

def run (c : Chronicle) (moves : List Move) : Chronicle :=
  moves.foldl move c

def stepsOf (c : Chronicle) : List Move → List (Step Journal.Script)
  | [] => []
  | m :: moves => c.steps m ++ (c.move m).stepsOf moves

@[simp] theorem service_run (c : Chronicle) (moves : List Move) :
    (c.run moves).service = c.service.run (c.stepsOf moves) := by
  induction moves generalizing c with
  | nil => rfl
  | cons m moves ih =>
    rw [stepsOf, Service.run_append]
    exact ih (c.move m)

/-- What the numbers say: an entry that was entered by the move that made a guard is one that the
guard has a claim to. -/
structure Dated (config : RegistryConfig) (c : Chronicle) : Prop where
  conforms : c.service.registry.value.Conforms config
  calm : c.service.Calm
  entered_lt : ∀ row ∈ c.service.rows, c.entered row.key < c.clock
  made_lt : ∀ p ∈ c.held, p.2 < c.clock
  claims : ∀ p ∈ c.held, ∀ row ∈ c.service.rows, c.entered row.key = p.2 → p.1.claims row

variable {c : Chronicle} {config : RegistryConfig}

private theorem dated_new (config : RegistryConfig) : (new config).Dated config where
  conforms := Service.conforms_run config ({} : Journal) []
  calm := ⟨rfl, rfl⟩
  entered_lt _ h := nomatch h
  made_lt _ h := nomatch h
  claims _ h := nomatch h

theorem mem_heldAfter {m : Move} {p : Guard × Nat} (hp : p ∈ c.heldAfter m) :
    p ∈ c.held ∨ ∃ o, m = .take (.ask (.acquire o)) ∧
      p = (⟨o.id, o.loggerName.getD ""⟩, c.clock) := by
  unfold heldAfter at hp
  split at hp
  · rename_i o
    split at hp
    · rename_i g hg
      rcases List.mem_append.mp hp with hold | hnew
      · exact .inl hold
      · rw [(acquire_ok hg).2] at hnew
        exact .inr ⟨o, rfl, List.mem_singleton.mp hnew⟩
    · exact .inl hp
  · exact .inl hp
  · exact .inl (List.mem_of_mem_eraseIdx hp)

private theorem mem_rows_move {m : Move} {row : Row} (h : row ∈ (c.move m).service.rows) :
    row ∈ c.service.rows ∨ ¬c.service.registry.value.contains row.key ∧
      ∃ q o, m = .take (.ask q) ∧ q.enters = some o ∧ o.usableName = some row.key ∧
        row.owner = o.id := by
  cases m with
  | take step =>
    cases step with
    | ask q =>
      rcases Service.mem_rows_serve (s := c.service) h with hold | ⟨hfree, o, hnew⟩
      · exact .inl hold
      · exact .inr ⟨hfree, q, o, rfl, hnew⟩
    | allot | lend | happen => exact .inl h
  | drop slot =>
    simp only [move, steps] at h
    cases hslot : c.held[slot]? with
    | none =>
      rw [hslot] at h
      exact .inl h
    | some p =>
      rw [hslot] at h
      rcases Service.mem_rows_serve (s := c.service) (q := .release p.1) h with hold | ⟨-, o, hq, -⟩
      · exact .inl hold
      · cases hq

theorem dated_move (h : c.Dated config) {m : Move} (hm : m.Smooth) : (c.move m).Dated config where
  conforms := by
    refine Service.run_keeps (P := (·.registry.value.Conforms config)) h.conforms ?_
    exact fun _ hs step _ => Service.conforms_step hs step
  calm := by
    refine Service.run_keeps (P := (·.Calm)) h.calm fun s hs step hstep => ?_
    apply Service.calm_step hs
    cases m with
    | take taken =>
      rw [List.mem_singleton.mp hstep]
      exact hm
    | drop slot =>
      obtain ⟨p, -, rfl⟩ := List.mem_map.mp hstep
      exact trivial
  entered_lt := by
    intro row _
    simp only [move]
    split
    · rename_i hcontains
      obtain ⟨row', hrow', hkey⟩ := List.mem_map.mp (contains_iff.mp hcontains)
      have hlt := h.entered_lt row' hrow'
      rw [hkey] at hlt
      omega
    · omega
  made_lt := by
    intro p hp
    rcases mem_heldAfter hp with hold | ⟨o, -, rfl⟩
    · exact Nat.lt_succ_of_lt (h.made_lt p hold)
    · exact Nat.lt_succ_self _
  claims := by
    intro p hp row hrow hnumber
    simp only [move] at hnumber
    rcases mem_rows_move hrow with hthere | ⟨hfree, q, o, rfl, hq, hname, hid⟩
    · -- the entry is older than the move, so its guard is too
      have hcontains : c.service.registry.value.contains row.key :=
        contains_iff.mpr (List.mem_map_of_mem hthere)
      rw [if_pos hcontains] at hnumber
      rcases mem_heldAfter hp with hold | ⟨o, -, rfl⟩
      · exact h.claims p hold row hthere hnumber
      · have hlt := h.entered_lt row hthere
        omega
    · -- the entry is new, so its guard is the one that the move made
      rw [if_neg hfree] at hnumber
      rcases mem_heldAfter hp with hold | ⟨o', hacquire, rfl⟩
      · have hlt := h.made_lt p hold
        omega
      · cases hacquire
        cases hq
        have hlogger := (Owner.usableName_eq_some.mp hname).1
        exact Guard.claims_iff.mpr ⟨by simp [hlogger], hid⟩

theorem dated_run (h : c.Dated config) {moves : List Move} (hmoves : ∀ m ∈ moves, m.Smooth) :
    (c.run moves).Dated config := by
  induction moves generalizing c with
  | nil => exact h
  | cons m moves ih =>
    apply ih (dated_move h (hmoves m List.mem_cons_self))
    intro m' hmem
    exact hmoves m' (List.mem_cons_of_mem _ hmem)

/-- However a run has mixed its moves, a guard that goes takes the entry that is filed under its
name for its owner, if there is one, with the endpoint, and touches nothing else. While the endpoint
that was made with the guard is registered this is the one. An endpoint of another move is lost with
the guard only if the guard's owner has registered the name again after the guard's own was gone. -/
theorem release_takes_claimed (config : RegistryConfig) {moves : List Move}
    (hmoves : ∀ m ∈ moves, m.Smooth) {slot : Nat} {g : Guard} {n : Nat}
    (hslot : ((new config).run moves).held[slot]? = some (g, n)) :
    let c := (new config).run moves
    let s := c.service
    let s' := (c.move (.drop slot)).service
    s = (Service.new config {}).run ((new config).stepsOf moves) ∧
      s' = (s.serve (.release g)).2 ∧
      Relinquished g s.registry.value s.transport s'.registry.value s'.transport ∧
      (s.rows.filter g.claims).length ≤ 1 ∧
      (∀ row ∈ s.rows, c.entered row.key = n → s.rows.filter g.claims = [row]) ∧
      ∀ row ∈ s.rows, row ∈ s'.rows ∨ c.entered row.key = n ∨
        row.key = g.name ∧ row.owner = g.id ∧ ∀ own ∈ s.rows, c.entered own.key ≠ n := by
  intro c s s'
  obtain ⟨hconforms, hcalm, -, -, hclaims⟩ : c.Dated config := dated_run (dated_new config) hmoves
  have hserve : s' = (s.serve (.release g)).2 := by
    have hsteps : c.steps (.drop slot) = [.ask (.release g)] := by simp [steps, c, hslot]
    simp only [s', move, hsteps]
    rfl
  have hgone : Relinquished g s.registry.value s.transport s'.registry.value s'.transport := by
    rw [hserve, Service.serve_release, if_pos (by rw [hcalm.free]; rfl)]
    exact relinquished_unregister hconforms hcalm.smooth g
  have hnodup := hconforms.sound.names_nodup
  have honly : ∀ row ∈ s.rows, c.entered row.key = n → s.rows.filter g.claims = [row] := by
    intro row hrow hnumber
    exact filter_claims_of_mem hnodup hrow
      (hclaims (g, n) (List.mem_of_getElem? hslot) row hrow hnumber)
  refine ⟨service_run (new config) moves, hserve, hgone, length_filter_claims_le hnodup g, honly,
    fun row hrow => ?_⟩
  rcases hgone.mem_or_claims hrow with hkept | hclaim
  · exact .inl hkept
  right
  by_cases hthere : ∃ own ∈ s.rows, c.entered own.key = n
  · -- the guard has a claim to its own entry and to this one, so they are the same
    obtain ⟨own, hown, hnumber⟩ := hthere
    have hmem : row ∈ s.rows.filter g.claims := List.mem_filter.mpr ⟨hrow, hclaim⟩
    rw [honly own hown hnumber] at hmem
    left
    rwa [List.mem_singleton.mp hmem]
  · obtain ⟨hname, howner⟩ := Guard.claims_iff.mp hclaim
    right
    exact ⟨hname, howner, fun own hown hnumber => hthere ⟨own, hown, hnumber⟩⟩

theorem release_takes_claimed_of_two :
    let moves : List Move := [.take (.ask .init), .take (.ask (.acquire ⟨⟨1⟩, some "nav"⟩)),
      .take (.ask (.acquire ⟨⟨1⟩, some "arm"⟩))]
    let c := (new {}).run moves
    let s := (c.move (.drop 0)).service
    (∀ m ∈ moves, m.Smooth) ∧ c.held[0]? = some (⟨⟨1⟩, "nav"⟩, 1) ∧
      s.rows = [⟨⟨"arm", ⟨1⟩, ⟨⟨1⟩, "rosout"⟩⟩, "arm"⟩] ∧ s.transport.destroyed = [⟨1⟩] := by
  intro moves c s
  have hsmooth : ∀ m ∈ moves, m.Smooth := by simp [moves, Move.Smooth, Step.Smooth]
  have hslot : c.held[0]? = some (⟨⟨1⟩, "nav"⟩, 1) := by decide
  obtain ⟨-, -, hgone, -⟩ := release_takes_claimed {} hsmooth hslot
  refine ⟨hsmooth, hslot, ?_, ?_⟩
  · exact hgone.rows_eq.trans (by decide)
  · exact (congrArg Journal.destroyed hgone.journal_eq).trans (by decide)

/-- A guard that outlived its endpoint takes one that its owner has registered since. -/
theorem stale_guard_takes_new_endpoint :
    let moves : List Move := [.take (.ask .init), .take (.ask (.acquire ⟨⟨1⟩, some "nav"⟩)),
      .take (.ask (.fini .asEntered)), .take (.ask .init),
      .take (.ask (.register ⟨⟨1⟩, some "nav"⟩))]
    let c := (new {}).run moves
    let s := (c.move (.drop 0)).service
    c.held[0]? = some (⟨⟨1⟩, "nav"⟩, 1) ∧ c.entered "nav" = 4 ∧
      c.service.transport.failDestroyOn = none ∧
      c.service.rows = [⟨⟨"nav", ⟨1⟩, ⟨⟨1⟩, "rosout"⟩⟩, "nav"⟩] ∧
      s.rows = [] ∧ s.transport.destroyed = c.service.transport.destroyed ++ [⟨1⟩] := by
  decide

end Chronicle

end Registry

end LogRouting
