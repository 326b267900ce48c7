import LogRouting.Proofs.Registry.Run
import LogRouting.Proofs.Text
/-!
Nodes and the names they log under. As long as a node has no dots of its own, its name and its
namespace can be read off the logger name again, so nodes get into each other's way in a registry
only if they differ in outer slashes at most. Main statement: `Registry.loggers_apart`.
-/
namespace LogRouting

namespace Node

structure Plain (n : Node) : Prop where
  named : n.name ≠ ""
  space_dotless : '.' ∉ n.space.toList
  name_dotless : '.' ∉ n.name.toList

def isSlash (c : Char) : Bool :=
  c = '/'

/-- Nodes that may differ in their ids, and in the slashes before and after their namespaces. -/
structure Alike (n n' : Node) : Prop where
  name : n.name = n'.name
  space : ∃ core, Text.Stripped isSlash core n.space.toList ∧
    Text.Stripped isSlash core n'.space.toList

def dotted (s : List Char) : List Char :=
  s.map fun c => if c = '/' then '.' else c

def slashed (s : List Char) : List Char :=
  s.map fun c => if c = '.' then '/' else c

/-- The name and the inner namespace that a logger name is made of: what follows the last dot, and
what precedes it with slashes for dots. -/
def parts (logger : List Char) : List Char × List Char :=
  let (name, rest) := logger.reverse.span (· ≠ '.')
  (name.reverse, slashed rest.tail.reverse)

@[simp] private theorem slashed_dotted {s : List Char} (h : '.' ∉ s) : slashed (dotted s) = s := by
  have hback : slashed (dotted s) = s.map fun c => c := by
    rw [slashed, dotted, List.map_map]
    apply List.map_congr_left
    intro c hc
    have hdot : c ≠ '.' := fun heq => h (heq ▸ hc)
    by_cases hslash : c = '/' <;> simp [hslash, hdot]
  rw [hback, List.map_id']

section
variable {name space : List Char} (hname : '.' ∉ name)
include hname

theorem ne_dot_of_mem_reverse : ∀ c ∈ name.reverse, decide (c ≠ '.') = true := by
  intro c hc
  rw [decide_eq_true_eq]
  rintro rfl
  exact hname (List.mem_reverse.mp hc)

private theorem parts_of_dotless : parts name = (name, []) := by
  have hall := ne_dot_of_mem_reverse hname
  rw [parts, List.span_eq_takeWhile_dropWhile, List.takeWhile_eq_self_iff.mpr hall,
    List.dropWhile_eq_nil_iff.mpr hall]
  simp [slashed]

@[simp] private theorem parts_append (hspace : '.' ∉ space) :
    parts (dotted space ++ '.' :: name) = (name, space) := by
  have hreverse : (dotted space ++ '.' :: name).reverse =
      name.reverse ++ '.' :: (dotted space).reverse := by simp
  rw [parts, hreverse, Text.span_append (ne_dot_of_mem_reverse hname) (by decide)]
  simp [slashed_dotted hspace]

end

variable {n a b : Node}

theorem stripped_innerSpace (n : Node) : Text.Stripped isSlash n.innerSpace n.space.toList :=
  Text.stripped_strip isSlash n.space.toList

theorem innerSpace_of_stripped {core : List Char} (h : Text.Stripped isSlash core n.space.toList) :
    n.innerSpace = core :=
  Text.strip_of_stripped h

theorem alike_iff : a.Alike b ↔ a.name = b.name ∧ a.innerSpace = b.innerSpace := by
  constructor
  · rintro ⟨hname, core, ha, hb⟩
    rw [innerSpace_of_stripped ha, innerSpace_of_stripped hb]
    exact ⟨hname, rfl⟩
  · rintro ⟨hname, hspace⟩
    exact ⟨hname, a.innerSpace, stripped_innerSpace a, hspace ▸ stripped_innerSpace b⟩

instance (a b : Node) : Decidable (a.Alike b) :=
  decidable_of_iff _ alike_iff.symm

private theorem innerSpace_dotless (h : '.' ∉ n.space.toList) : '.' ∉ n.innerSpace := by
  obtain ⟨before, after, -, -, hspace⟩ := (stripped_innerSpace n).within
  intro hdot
  rw [hspace] at h
  exact h (List.mem_append_left _ (List.mem_append_right _ hdot))

theorem parts_loggerName (h : n.Plain) :
    n.loggerName.map (parts ·.toList) = some (n.name.toList, n.innerSpace) := by
  unfold loggerName
  rw [if_neg h.named]
  by_cases hspace : n.innerSpace = []
  · rw [if_pos hspace, hspace, Option.map_some, parts_of_dotless h.name_dotless]
  · -- the last dot is the one in front of the name, since the name has none
    have htext : (String.ofList (dotted n.innerSpace) ++ "." ++ n.name).toList =
        dotted n.innerSpace ++ '.' :: n.name.toList := by simp
    rw [if_neg hspace, Option.map_some, ← dotted, htext,
      parts_append h.name_dotless (innerSpace_dotless h.space_dotless)]

theorem loggerName_eq_iff (ha : a.Plain) (hb : b.Plain) :
    a.loggerName = b.loggerName ↔ a.Alike b := by
  rw [alike_iff]
  constructor
  · intro h
    have hparts := congrArg (Option.map (parts ·.toList)) h
    rw [parts_loggerName ha, parts_loggerName hb, Option.some.injEq, Prod.mk.injEq,
      String.toList_inj] at hparts
    exact ⟨hparts.1, hparts.2⟩
  · rintro ⟨hname, hspace⟩
    rw [loggerName, loggerName, hname, hspace]

end Node

namespace Registry

theorem register_alreadyInit_iff {D : Type} [Transport D] (r : Registry) (o : Owner) (d : D) :
    Status.ofResult (r.register o d).1 = .alreadyInit ↔
      ∃ row ∈ r.rows, o.usableName = some row.key := by
  have hentry {name : String} (ho : o.usableName = some name) :
      r.contains name ↔ ∃ row ∈ r.rows, o.usableName = some row.key := by
    rw [contains_iff, names, List.mem_map, ho]
    simp only [Option.some.injEq, eq_comm]
  have hcases := register_cases r o d
  generalize r.register o d = outcome at hcases ⊢
  cases hcases with
  | down hr => simp [Status.ofResult, rows_of_down hr]
  | nameless hr ho => simp [Status.ofResult, LogError.status, nameless, ho]
  | taken hr ho hn => simpa [Status.ofResult, LogError.status] using (hentry ho).mp hn
  | refused hr ho hn | entered hr ho hn =>
    rw [← hentry ho]
    simpa [Status.ofResult, LogError.status] using hn
  | full hr ho hn hc hl =>
    obtain ⟨reason, rfl⟩ := badAlloc_of_shortage? hl
    rw [← hentry ho]
    simpa [Status.ofResult, LogError.status] using hn

def Step.enrols {E : Type} (nodes : List Node) : Step E → Prop
  | .ask q => ∀ o, q.enters = some o → ∃ n ∈ nodes, o = n.owner
  | _ => True

namespace Service

variable {D E : Type} [Transport D] [Environment E D] {s : Service D} {nodes : List Node}
  {row : Row}

theorem mem_rows_step {c : Step E} (hc : c.enrols nodes) (h : row ∈ (s.step c).rows) :
    row ∈ s.rows ∨ ∃ n ∈ nodes, n.owner.usableName = some row.key := by
  cases c with
  | ask q =>
    rcases mem_rows_serve h with hold | ⟨-, o, hq, hname, -⟩
    · exact .inl hold
    · obtain ⟨n, hn, rfl⟩ := hc o hq
      exact .inr ⟨n, hn, hname⟩
  | allot | lend | happen => exact .inl h

theorem mem_rows_run {steps : List (Step E)} (hsteps : ∀ c ∈ steps, c.enrols nodes)
    (h : row ∈ (s.run steps).rows) :
    row ∈ s.rows ∨ ∃ n ∈ nodes, n.owner.usableName = some row.key := by
  induction steps generalizing s with
  | nil => exact .inl h
  | cons c steps ih =>
    rcases ih (fun c' hmem => hsteps c' (List.mem_cons_of_mem c hmem)) h with hold | hnew
    · exact mem_rows_step (hsteps c List.mem_cons_self) hold
    · exact .inr hnew

end Service

/-- Plain nodes have the same logger name exactly if they differ in outer slashes at most. Whatever
a run asks for nodes that differ from `b` in more than that, it never brings a registry to tell `b`
that its logger has an endpoint; having registered a node like `b` does. -/
theorem loggers_apart {a b : Node} (ha : a.Plain) (hb : b.Plain) :
    (a.loggerName = b.loggerName ↔ a.Alike b) ∧
    (∀ {D E : Type} [Transport D] [Environment E D] {nodes : List Node} (s : Service D)
      {steps : List (Step E)} (d : D),
      (∀ n ∈ nodes, n.Plain ∧ ¬n.Alike b) → (∀ c ∈ steps, c.enrols nodes) →
        Status.ofResult ((s.run steps).registry.value.register b.owner d).1 = .alreadyInit →
          Status.ofResult (s.registry.value.register b.owner d).1 = .alreadyInit) ∧
    (∀ {D : Type} [Transport D] {r : Registry} (d d' : D),
      a.Alike b → r.isUp → (r.register a.owner d).1 = .ok () →
        Status.ofResult ((r.register a.owner d).2.1.register b.owner d').1 = .alreadyInit) := by
  have hsame {n : Node} (halike : n.loggerName = b.loggerName) :
      b.owner.usableName = n.owner.usableName := by
    rw [Owner.usableName, Owner.usableName, Node.owner, Node.owner, halike]
  refine ⟨Node.loggerName_eq_iff ha hb, ?_, ?_⟩
  · intro D E _ _ nodes s steps d hnodes hsteps hrefused
    obtain ⟨row, hrow, hname⟩ := (register_alreadyInit_iff _ b.owner d).mp hrefused
    apply (register_alreadyInit_iff _ b.owner d).mpr
    rcases Service.mem_rows_run hsteps hrow with hold | ⟨n, hn, hlogger⟩
    · exact ⟨row, hold, hname⟩
    · -- an entry that was made for another node does not have the name of `b`
      obtain ⟨hplain, hdiffers⟩ := hnodes n hn
      have heq : n.loggerName = b.loggerName :=
        (Owner.usableName_eq_some.mp hlogger).1.trans (Owner.usableName_eq_some.mp hname).1.symm
      exact absurd ((Node.loggerName_eq_iff hplain hb).mp heq) hdiffers
  · intro D _ r d d' halike hup hok
    rw [register_alreadyInit_iff, hsame ((Node.loggerName_eq_iff ha hb).mpr halike)]
    obtain ⟨es, hes⟩ := up_of_isUp hup
    have hcases := register_cases r a.owner d
    generalize r.register a.owner d = outcome at hcases hok ⊢
    cases hcases with
    | down hr =>
      rw [hr] at hes
      cases hes
    | @entered es name endpoint d' hr ho hn hc hl =>
      exact ⟨⟨⟨name, a.owner.id, endpoint⟩, name⟩, by simp, ho⟩
    | _ => cases hok

/-- An inner slash more makes another logger, outer slashes do not. -/
theorem loggers_apart_inner_slash :
    let a : Node := ⟨⟨1⟩, "/robot//base", "odom"⟩
    let b : Node := ⟨⟨2⟩, "robot/base/", "odom"⟩
    let c : Node := ⟨⟨3⟩, "//robot/base", "odom"⟩
    let s : Service Journal := (Service.new {} {}).run [.ask .init]
    let r := s.registry.value
    let r' := (s.run [.ask (.acquire a.owner)]).registry.value
    let j : Journal := {}
    a.Plain ∧ b.Plain ∧ c.Plain ∧ ¬a.Alike b ∧ c.Alike b ∧ r.isUp ∧
      a.loggerName ≠ b.loggerName ∧ r'.names = ["robot..base.odom"] ∧
      Status.ofResult (r'.register b.owner j).1 ≠ .alreadyInit ∧
      (r.register c.owner j).1 = .ok () ∧
      Status.ofResult ((r.register c.owner j).2.1.register b.owner j).1 = .alreadyInit := by
  intro a b c s r r' j
  have ha : a.Plain := ⟨by decide, by decide, by decide⟩
  have hb : b.Plain := ⟨by decide, by decide, by decide⟩
  have hc : c.Plain := ⟨by decide, by decide, by decide⟩
  have hdiffers : ¬a.Alike b := by decide
  have halike : c.Alike b := by decide
  have hnodes : ∀ n ∈ [a], n.Plain ∧ ¬n.Alike b := by
    intro n hn
    rw [List.mem_singleton.mp hn]
    exact ⟨ha, hdiffers⟩
  have hsteps : ∀ step ∈ ([.ask (.acquire a.owner)] : List (Step Journal.Script)),
      step.enrols [a] := by
    intro step hstep
    rw [List.mem_singleton.mp hstep]
    intro o ho
    cases ho
    exact ⟨a, List.mem_singleton_self a, rfl⟩
  obtain ⟨hname, hnever, -⟩ := loggers_apart ha hb
  obtain ⟨-, -, hcollides⟩ := loggers_apart hc hb
  refine ⟨ha, hb, hc, hdiffers, halike, by decide, mt hname.mp hdiffers, by decide, ?_, by decide,
    hcollides j j halike (by decide) (by decide)⟩
  intro hrefused
  exact absurd (hnever s j hnodes hsteps hrefused) (by decide)

end Registry

end LogRouting
