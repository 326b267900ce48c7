import LogRouting.Proofs.Toml.Document
/-!
No integer above 64 bits comes out of a document: the reader admits none, and what statements do
to the tables only moves values around. Main statement: `inRange_of_parse?`.
-/
namespace LogRouting.Toml

inductive Value.InRange : Value → Prop
  | string (s : String) : InRange (.string s)
  | integer {n : Int} (h : n < integerBound) : InRange (.integer n)
  | float : InRange .float
  | boolean (b : Bool) : InRange (.boolean b)
  | datetime : InRange .datetime
  | array {items : List Value} (h : ∀ v ∈ items, InRange v) : InRange (.array items)
  | table (origin : Origin) {es : List (String × Value)} (h : ∀ e ∈ es, InRange e.2) :
    InRange (.table origin es)
  | tables {elements : List (List (String × Value))} (h : ∀ es ∈ elements, ∀ e ∈ es, InRange e.2) :
    InRange (.tables elements)

namespace Entries

def InRange (es : Entries) : Prop :=
  ∀ e ∈ es, e.2.InRange

variable {α : Type} {es es' sub : Entries} {key : String} {v : Value} {parents : List String}

@[simp] theorem inRange_nil : InRange [] := by
  intro e he
  cases he

theorem InRange.snoc (hes : InRange es) (hv : v.InRange) : InRange (es ++ [(key, v)]) := by
  intro e he
  rcases List.mem_append.mp he with he | he
  · exact hes e he
  · rw [List.mem_singleton.mp he]
    exact hv

theorem InRange.replace (hes : InRange es) (hv : v.InRange) : InRange (es.replace key v) := by
  intro e he
  obtain ⟨x, hx, rfl⟩ := List.mem_map.mp he
  split
  · exact hv
  · exact hes x hx

theorem InRange.remove (hes : InRange es) : InRange (es.remove key) :=
  fun e he => hes e (List.mem_filter.mp he).1

theorem InRange.lookup (hes : InRange es) (h : es.lookup key = some v) : v.InRange := by
  obtain ⟨l₁, l₂, hsplit, -⟩ := List.lookup_eq_some_iff.mp h
  exact hes (key, v) (by simp [hsplit])

theorem InRange.tables_snoc {elements : List Entries} (helements : ∀ es ∈ elements, InRange es)
    (hsub : InRange sub) : (Value.tables (elements ++ [sub])).InRange := by
  apply Value.InRange.tables
  intro es hes
  rcases List.mem_append.mp hes with hes | hes
  · exact helements es hes
  · rw [List.mem_singleton.mp hes]
    exact hsub

/-- An edit keeps the range, and so does what it takes out. -/
def Keeps (P : α → Prop) (edit : Origin → Entries → Option (α × Entries)) : Prop :=
  ∀ origin es a es', InRange es → edit origin es = some (a, es') → P a ∧ InRange es'

theorem keeps_modifyAt {P : α → Prop} {edit : Origin → Entries → Option (α × Entries)}
    (dotted : Bool) (path : List String) (h : Keeps P edit) :
    Keeps P (modifyAt dotted edit path) := by
  induction path with
  | nil =>
    intro origin es a es' hes hedit
    rw [modifyAt] at hedit
    exact h origin es a es' hes hedit
  | cons key path ih =>
    intro origin es a es' hes hedit
    rw [modifyAt] at hedit
    cases hlookup : es.lookup key with
    | none =>
      -- the table is made on the way
      rw [hlookup] at hedit
      simp only [Option.bind_eq_bind, Option.bind_eq_some_iff, Option.some.injEq, Prod.mk.injEq,
        Prod.exists] at hedit
      obtain ⟨b, sub, hsub, rfl, rfl⟩ := hedit
      obtain ⟨hb, hsub'⟩ := ih _ _ _ _ inRange_nil hsub
      exact ⟨hb, hes.snoc (.table _ hsub')⟩
    | some v =>
      have hv := hes.lookup hlookup
      rw [hlookup] at hedit
      cases hv with
      | table origin' hsub =>
        cases origin' with
        | inline => cases hedit
        | _ =>
          dsimp only at hedit
          split at hedit
          · cases hedit
          simp only [Option.bind_eq_bind, Option.bind_eq_some_iff, Option.some.injEq,
            Prod.mk.injEq, Prod.exists] at hedit
          obtain ⟨b, sub, hedit, rfl, rfl⟩ := hedit
          obtain ⟨hb, hsub'⟩ := ih _ _ _ _ hsub hedit
          exact ⟨hb, hes.replace (.table _ hsub')⟩
      | tables helements =>
        -- the path goes on in the last of the tables
        simp only [Option.bind_eq_bind, Option.bind_eq_some_iff, Option.some.injEq,
          Prod.mk.injEq, Prod.exists] at hedit
        obtain ⟨last, hlast, b, sub, hedit, rfl, rfl⟩ := hedit
        have hlast' := helements last (List.mem_of_getLast? hlast)
        obtain ⟨hb, hsub⟩ := ih _ _ _ _ hlast' hedit
        have hinit := fun es' hes' => helements es' (List.dropLast_subset _ hes')
        exact ⟨hb, hes.replace (InRange.tables_snoc hinit hsub)⟩
      | _ => cases hedit

theorem InRange.edited {dotted : Bool} {origin : Origin}
    {edit : Origin → Entries → Option (Unit × Entries)} (hes : InRange es)
    (hedit : ∀ origin es es', InRange es → edit origin es = some ((), es') → InRange es')
    (h : (modifyAt dotted edit parents origin es).map (·.2) = some es') : InRange es' := by
  obtain ⟨⟨_, _⟩, hpath, rfl⟩ := Option.map_eq_some_iff.mp h
  have hkeeps : Keeps (fun _ => True) edit :=
    fun origin es _ es' hes hspot => ⟨trivial, hedit origin es es' hes hspot⟩
  exact (keeps_modifyAt dotted parents hkeeps _ _ _ _ hes hpath).2

theorem InRange.insert {origin : Origin} (hes : InRange es) (hv : v.InRange)
    (h : es.insert origin parents key v = some es') : InRange es' := by
  refine hes.edited (fun o es es' hes hspot => ?_) h
  split at hspot
  · cases hspot
  · cases hspot
    exact hes.snoc hv

theorem InRange.detach (hes : InRange es) (h : es.detach parents key = some (sub, es')) :
    InRange sub ∧ InRange es' := by
  refine keeps_modifyAt (P := InRange) false parents ?_ _ _ _ _ hes h
  intro o es a es' hes hspot
  dsimp only at hspot
  cases hlookup : es.lookup key with
  | none =>
    rw [hlookup] at hspot
    cases hspot
    exact ⟨inRange_nil, hes⟩
  | some v =>
    have hv := hes.lookup hlookup
    rw [hlookup] at hspot
    cases hv with
    | table origin hsub =>
      cases origin with
      | implied =>
        cases hspot
        exact ⟨hsub, hes.remove⟩
      | _ => cases hspot
    | _ => cases hspot

theorem InRange.attach (hes : InRange es) (hsub : InRange sub)
    (h : es.attach parents key sub = some es') : InRange es' := by
  refine hes.edited (fun o es es' hes hspot => ?_) h
  split at hspot
  · cases hspot
  · cases hspot
    exact hes.snoc (.table _ hsub)

theorem InRange.openArray (hes : InRange es) (h : es.openArray parents key = some es') :
    InRange es' := by
  refine hes.edited (fun o es es' hes hspot => ?_) h
  split at hspot
  · cases hspot
    exact hes.snoc (.tables (by simp))
  · cases hspot
    exact hes
  · cases hspot

theorem InRange.pushArray (hes : InRange es) (hsub : InRange sub)
    (h : es.pushArray parents key sub = some es') : InRange es' := by
  refine hes.edited (fun o es es' hes hspot => ?_) h
  split at hspot
  · rename_i elements hlookup
    cases hspot
    cases hes.lookup hlookup with
    | tables helements => exact hes.replace (InRange.tables_snoc helements hsub)
  · cases hspot

end Entries

namespace Document

def InRange (d : Document) : Prop :=
  d.finished.InRange ∧ d.current.InRange

def StatementInRange : Statement → Prop
  | .pair _ _ v => v.InRange
  | _ => True

theorem InRange.finish {d : Document} {es : Entries} (hd : d.InRange) (h : d.finish = some es) :
    es.InRange := by
  unfold Document.finish at h
  split at h
  · cases h
    exact hd.2
  · exact hd.1.attach hd.2 h
  · exact hd.1.pushArray hd.2 h

theorem InRange.step {d d' : Document} {st : Statement} (hd : d.InRange)
    (hst : StatementInRange st) (h : d.step st = some d') : d'.InRange := by
  cases st with
  | pair parents key v =>
    simp only [Document.step, Option.bind_eq_bind, Option.bind_eq_some_iff, Option.some.injEq] at h
    obtain ⟨current, hcurrent, rfl⟩ := h
    exact ⟨hd.1, hd.2.insert hst hcurrent⟩
  | header parents key =>
    simp only [Document.step, Option.bind_eq_bind, Option.bind_eq_some_iff, Option.some.injEq,
      Prod.exists] at h
    obtain ⟨es, hes, current, finished, hdetach, rfl⟩ := h
    exact ((hd.finish hes).detach hdetach).symm
  | arrayHeader parents key =>
    simp only [Document.step, Option.bind_eq_bind, Option.bind_eq_some_iff, Option.some.injEq] at h
    obtain ⟨es, hes, finished, hopen, rfl⟩ := h
    exact ⟨(hd.finish hes).openArray hopen, Entries.inRange_nil⟩

theorem InRange.foldlM {d d' : Document} {sts : List Statement} (hd : d.InRange)
    (hsts : ∀ st ∈ sts, StatementInRange st) (h : sts.foldlM Document.step d = some d') :
    d'.InRange := by
  induction sts generalizing d with
  | nil =>
    cases h
    exact hd
  | cons st sts ih =>
    rw [List.foldlM_cons, Option.bind_eq_bind, Option.bind_eq_some_iff] at h
    obtain ⟨next, hnext, hrest⟩ := h
    exact ih (hd.step (hsts st List.mem_cons_self) hnext)
      (fun x hx => hsts x (List.mem_cons_of_mem st hx)) hrest

end Document

private theorem integer?_lt {s : List Char} {n : Int} (h : integer? s = some n) :
    n < integerBound := by
  have hbound : ∀ o : Option Int,
      (o.bind fun m => if -(integerBound : Int) ≤ m ∧ m < integerBound then some m else none) =
        some n → n < integerBound := by
    intro o ho
    obtain ⟨m, -, hm⟩ := Option.bind_eq_some_iff.mp ho
    rw [Option.ite_none_right_eq_some] at hm
    exact Option.some.inj hm.2 ▸ hm.1.2
  unfold integer? at h
  dsimp only at h
  split at h
  · exact hbound _ h
  · exact hbound _ h
  · exact hbound _ h
  · obtain ⟨ds, -, h⟩ := Option.bind_eq_some_iff.mp h
    exact hbound _ h

theorem inRange_of_scalar? {word : List Char} {v : Value} (h : scalar? word = some v) :
    v.InRange := by
  unfold scalar? at h
  repeat' split at h
  · cases h
    exact .boolean true
  · cases h
    exact .boolean false
  · cases h
    exact .datetime
  · cases h
    exact .float
  · obtain ⟨n, hn, rfl⟩ := Option.map_eq_some_iff.mp h
    exact .integer (integer?_lt hn)

/-! The three readers of values call each other with less fuel. -/

def ValueInRange (fuel : Nat) : Prop :=
  ∀ room s v r, value? fuel room s = some (v, r) → v.InRange

def ItemsInRange (fuel : Nat) : Prop :=
  ∀ room s vs r, items? fuel room s = some (vs, r) → ∀ v ∈ vs, v.InRange

def PairsInRange (fuel : Nat) : Prop :=
  ∀ room es s es' r, Entries.InRange es → pairs? fuel room es s = some (es', r) →
    Entries.InRange es'

section
variable {fuel : Nat}

theorem valueInRange_succ (hitems : ItemsInRange fuel) (hpairs : PairsInRange fuel) :
    ValueInRange (fuel + 1) := by
  intro room s v r h
  unfold value? at h
  split at h
  · -- an array
    cases room with
    | zero => cases h
    | succ room =>
      simp only [Option.bind_eq_bind, Option.bind_eq_some_iff, Prod.exists, Option.some.injEq,
        Prod.mk.injEq] at h
      obtain ⟨items, r', h, rfl, -⟩ := h
      exact .array (hitems _ _ _ _ h)
  · -- an inline table
    cases room with
    | zero => cases h
    | succ room =>
      dsimp only at h
      split at h
      · cases h
        exact .table _ (by simp)
      · simp only [Option.bind_eq_bind, Option.bind_eq_some_iff, Prod.exists,
          Option.some.injEq, Prod.mk.injEq] at h
        obtain ⟨entries, r', h, rfl, -⟩ := h
        exact .table _ (hpairs _ _ _ _ _ Entries.inRange_nil h)
  · obtain ⟨⟨t, r'⟩, -, h⟩ := Option.map_eq_some_iff.mp h
    cases h
    exact .string _
  · obtain ⟨⟨t, r'⟩, -, h⟩ := Option.map_eq_some_iff.mp h
    cases h
    exact .string _
  · simp only [Option.bind_eq_bind, Option.bind_eq_some_iff, Option.some.injEq,
      Prod.mk.injEq] at h
    obtain ⟨w, h, rfl, -⟩ := h
    exact inRange_of_scalar? h

theorem itemsInRange_succ (hvalue : ValueInRange fuel) (hitems : ItemsInRange fuel) :
    ItemsInRange (fuel + 1) := by
  intro room s vs r h
  unfold items? at h
  split at h
  · cases h
    simp
  · simp only [Option.bind_eq_bind, Option.bind_eq_some_iff, Prod.exists] at h
    obtain ⟨v, r', hv, h⟩ := h
    have hv' := hvalue _ _ _ _ hv
    split at h
    · simp only [Option.bind_eq_some_iff, Prod.exists, Option.some.injEq, Prod.mk.injEq] at h
      obtain ⟨vs', r'', hvs, rfl, -⟩ := h
      exact List.forall_mem_cons.mpr ⟨hv', hitems _ _ _ _ hvs⟩
    · cases h
      simpa using hv'
    · cases h

theorem pairsInRange_succ (hvalue : ValueInRange fuel) (hpairs : PairsInRange fuel) :
    PairsInRange (fuel + 1) := by
  intro room es s es' r hes h
  unfold pairs? at h
  simp only [Option.bind_eq_bind, Option.bind_eq_some_iff, Prod.exists] at h
  obtain ⟨parents, key, r₁, -, r₂, -, v, r₃, hv, es₁, hes₁, h⟩ := h
  have hes₁' := hes.insert (hvalue _ _ _ _ hv) hes₁
  split at h
  · exact hpairs _ _ _ _ _ hes₁' h
  · cases h
    exact hes₁'
  · cases h

end

theorem inRange_of_readers (fuel : Nat) :
    ValueInRange fuel ∧ ItemsInRange fuel ∧ PairsInRange fuel := by
  induction fuel with
  | zero =>
    refine ⟨fun room s v r h => ?_, fun room s vs r h => ?_, fun room es s es' r _ h => ?_⟩
    · rw [value?] at h
      cases h
    · rw [items?] at h
      cases h
    · rw [pairs?] at h
      cases h
  | succ fuel ih =>
    obtain ⟨hvalue, hitems, hpairs⟩ := ih
    exact ⟨valueInRange_succ hitems hpairs, itemsInRange_succ hvalue hitems,
      pairsInRange_succ hvalue hpairs⟩

theorem inRange_of_statement? {s r : List Char} {st : Statement}
    (h : statement? s = some (st, r)) : Document.StatementInRange st := by
  unfold statement? at h
  split at h
  · simp only [Option.bind_eq_bind, Option.bind_eq_some_iff, Prod.exists, Option.some.injEq,
      Prod.mk.injEq] at h
    obtain ⟨parents, key, r', -, _, -, _, -, rfl, -⟩ := h
    trivial
  · simp only [Option.bind_eq_bind, Option.bind_eq_some_iff, Prod.exists, Option.some.injEq,
      Prod.mk.injEq] at h
    obtain ⟨parents, key, r', -, _, -, rfl, -⟩ := h
    trivial
  · simp only [Option.bind_eq_bind, Option.bind_eq_some_iff, Prod.exists, Option.some.injEq,
      Prod.mk.injEq] at h
    obtain ⟨parents, key, r', -, _, -, v, _, hv, rfl, -⟩ := h
    exact (inRange_of_readers _).1 _ _ _ _ hv

theorem inRange_of_statements? {fuel : Nat} {s : List Char} {sts : List Statement}
    (h : statements? fuel s = some sts) : ∀ st ∈ sts, Document.StatementInRange st := by
  induction fuel generalizing s sts with
  | zero =>
    cases s with
    | nil =>
      rw [statements?] at h
      cases h
      simp
    | cons c s =>
      rw [statements?] at h
      · cases h
      · exact List.cons_ne_nil c s
  | succ fuel ih =>
    cases s with
    | nil =>
      rw [statements?] at h
      cases h
      simp
    | cons c s =>
      rw [statements?_cons] at h
      split at h
      · exact ih h
      · simp only [Option.bind_eq_bind, Option.bind_eq_some_iff, Prod.exists,
          Option.some.injEq] at h
        obtain ⟨st, r, hst, _, -, sts', hsts, rfl⟩ := h
        exact List.forall_mem_cons.mpr ⟨inRange_of_statement? hst, ih hsts⟩

/-- Every integer of a document that can be read is in range. -/
theorem inRange_of_parse? {s : List Char} {es : Entries} (h : parse? s = some es) :
    es.InRange := by
  simp only [parse?, Document.build?, Option.bind_eq_bind, Option.bind_eq_some_iff] at h
  obtain ⟨sts, hsts, d, hd, h⟩ := h
  have hempty : Document.InRange .empty := ⟨Entries.inRange_nil, Entries.inRange_nil⟩
  exact (hempty.foldlM (inRange_of_statements? hsts) hd).finish h

end LogRouting.Toml
