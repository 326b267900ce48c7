import LogRouting.Proofs.Files
import LogRouting.Proofs.Registry.Outcome
import LogRouting.Proofs.Text
import LogRouting.Transport
/-!
A file that takes bytes gets every published record, whole and in order. What is still in the buffer
counts as written, as it is written before the transport is gone. Main statement: `Filed.publish`.
-/
namespace LogRouting

variable {base fs : Files} {p : Place} {bytes : List UInt8}

namespace Spool

/-- The file at a place and what is pending make up the bytes; all else is as in the base. -/
structure Filed (base : Files) (p : Place) (bytes : List UInt8) (s : Spool) (fs : Files) :
    Prop where
  place_eq : s.place = p
  written : ∃ content, fs.node? p = some (.file content) ∧ content ++ s.pending = bytes
  elsewhere : ∀ q, q ≠ p → fs.node? q = base.node? q

def Gives (base : Files) (p : Place) (bytes : List UInt8) (r : Result) : Prop :=
  r.1 = true ∧ Filed base p bytes r.2.1 r.2.2

variable {s : Spool}

theorem Filed.append (h : Filed base p bytes s fs) (added : List UInt8) :
    ∃ fs' content, fs.append? s.place added = some fs' ∧ content ++ s.pending = bytes ∧
      ∀ pending, Filed base p (content ++ added ++ pending) ⟨p, pending⟩ fs' := by
  obtain ⟨content, hnode, hbytes⟩ := h.written
  have happend : fs.append? s.place added = some (fs.put p (.file (content ++ added))) := by
    rw [h.place_eq, Files.append?, hnode]
  refine ⟨_, content, happend, hbytes, fun pending => ⟨rfl, ⟨_, ?_, rfl⟩, fun q hq => ?_⟩⟩
  · exact Files.node?_put_self (by simp [hnode])
  · rw [Files.node?_put_of_ne hq, h.elsewhere q hq]

theorem Filed.flush (h : Filed base p bytes s fs) :
    Gives base p bytes (s.flush fs) ∧ (s.flush fs).2.1.pending = [] := by
  rw [Spool.flush]
  split
  · exact ⟨⟨rfl, h⟩, ‹s.pending = []›⟩
  · obtain ⟨fs', content, happend, hbytes, hfiled⟩ := h.append s.pending
    have hflushed := hfiled []
    rw [List.append_nil, hbytes] at hflushed
    rw [happend]
    exact ⟨⟨rfl, h.place_eq ▸ hflushed⟩, rfl⟩

/-- A piece goes to the buffer, or past it if nothing is pending. -/
theorem Filed.hold (h : Filed base p bytes s fs) {piece : List UInt8}
    (hfits : s.pending = [] ∨ piece.length < capacity) :
    Gives base p (bytes ++ piece) (s.hold piece fs) := by
  rw [Spool.hold]
  split
  · obtain ⟨content, hnode, hbytes⟩ := h.written
    refine ⟨rfl, h.place_eq, ⟨content, hnode, ?_⟩, h.elsewhere⟩
    rw [← hbytes, List.append_assoc]
  · have hpending : s.pending = [] := hfits.resolve_right ‹_›
    obtain ⟨fs', content, happend, hbytes, hfiled⟩ := h.append piece
    have hwritten := hfiled s.pending
    rw [hpending, List.append_nil] at hwritten hbytes
    rw [happend]
    refine ⟨rfl, ?_⟩
    rw [← hbytes]
    have hs : s = ⟨p, []⟩ := by
      rw [← hpending, ← h.place_eq]
    exact hs ▸ hwritten

theorem Filed.put (h : Filed base p bytes s fs) (piece : List UInt8) :
    Gives base p (bytes ++ piece) (s.put piece fs) := by
  rw [Spool.put]
  split
  · rename_i hfits
    apply h.hold
    by_cases hpiece : piece.length < capacity
    · exact .inr hpiece
    · have hzero : s.pending.length = 0 := by omega
      exact .inl (List.length_eq_zero_iff.mp hzero)
  · obtain ⟨⟨hok, hfiled⟩, hpending⟩ := h.flush
    rcases hflush : s.flush fs with ⟨ok, s', fs'⟩
    rw [hflush] at hok hfiled hpending
    cases hok
    exact hfiled.hold (.inl hpending)

theorem Filed.putAll (h : Filed base p bytes s fs) (pieces : List (List UInt8)) :
    Gives base p (bytes ++ pieces.flatten) (s.putAll pieces fs) := by
  induction pieces generalizing bytes s fs with
  | nil =>
    rw [List.flatten_nil, List.append_nil]
    exact ⟨rfl, h⟩
  | cons piece pieces ih =>
    obtain ⟨hok, hfiled⟩ := h.put piece
    rw [Spool.putAll]
    rcases hput : s.put piece fs with ⟨ok, s', fs'⟩
    rw [hput] at hok hfiled
    cases hok
    rw [List.flatten_cons, ← List.append_assoc]
    exact ih hfiled

end Spool

namespace JsonLines

def Filed (base : Files) (p : Place) (bytes : List UInt8) (t : JsonLines) : Prop :=
  t.spool.Filed base p bytes t.files

def Settled (base : Files) (p : Place) (bytes : List UInt8) (t : JsonLines) : Prop :=
  t.Filed base p bytes ∧ t.spool.pending = []

variable {t : JsonLines}

theorem Settled.node? (h : t.Settled base p bytes) : t.files.node? p = some (.file bytes) := by
  obtain ⟨hfiled, hpending⟩ := h
  obtain ⟨content, hnode, hbytes⟩ := hfiled.written
  rw [hpending, List.append_nil] at hbytes
  rwa [← hbytes]

theorem Filed.flush (h : Filed base p bytes t) :
    t.flush.1 = .ok () ∧ t.flush.2.Settled base p bytes := by
  obtain ⟨⟨hok, hfiled⟩, hpending⟩ := Spool.Filed.flush h
  unfold JsonLines.flush
  rcases hflush : t.spool.flush t.files with ⟨ok, s', fs'⟩
  rw [hflush] at hok hfiled hpending
  cases hok
  exact ⟨rfl, hfiled, hpending⟩

theorem Filed.destroy (h : Filed base p bytes t) (owner : OwnerId) (e : Endpoint) :
    (t.destroy owner e).1 = .ok () ∧ (t.destroy owner e).2.Settled base p bytes := by
  obtain ⟨hok, hfiled⟩ := h.flush
  unfold JsonLines.destroy
  rcases hflush : t.flush with ⟨_ | ⟨⟩, t'⟩
  · rw [hflush] at hok
    cases hok
  · rw [hflush] at hfiled
    exact ⟨rfl, hfiled⟩

instance : Transport.Faithful JsonLines where
  create_eq h := by
    cases h
    rfl

theorem keeps_filed (base : Files) (p : Place) (bytes : List UInt8) :
    Registry.Keeps (Filed base p bytes) where
  create h hcreate := by
    cases hcreate
    exact h
  destroy {owner e d d' result} h hdestroy := by
    have hfiled := (h.destroy owner e).2.1
    change JsonLines.destroy owner e d = _ at hdestroy
    rwa [hdestroy] at hfiled

theorem Filed.publish (h : Filed base p bytes t) (e : Endpoint) (r : Record) :
    (t.publish e r).1 = .ok () ∧
      (t.publish e r).2.Settled base p (bytes ++ utf8 (line e r)) := by
  obtain ⟨hok, hfiled⟩ := Spool.Filed.putAll h ((linePieces e r).map utf8)
  unfold JsonLines.publish
  rcases hpieces : t.spool.putAll ((linePieces e r).map utf8) t.files with ⟨ok, s', fs'⟩
  rw [hpieces] at hok hfiled
  cases hok
  obtain ⟨hok', hfiled'⟩ := Spool.Filed.put hfiled (utf8 ['\n'])
  dsimp only
  rcases hend : s'.put (utf8 ['\n']) fs' with ⟨ok, s'', fs''⟩
  rw [hend] at hok' hfiled'
  cases hok'
  have hline : ((linePieces e r).map utf8).flatten ++ utf8 ['\n'] = utf8 (line e r) := by
    rw [line, utf8_append, utf8_flatten]
  rw [List.append_assoc, hline] at hfiled'
  exact Filed.flush (t := { t with spool := s'', files := fs'' }) hfiled'

theorem Filed.close (h : Filed base p bytes t) :
    t.close.node? p = some (.file bytes) ∧ ∀ q, q ≠ p → t.close.node? q = base.node? q := by
  have hsettled := h.flush.2
  exact ⟨hsettled.node?, hsettled.1.elsewhere⟩

theorem filed_opened {path : String} {files : Files} (h : ofPath path files = .ok t)
    (hplace : t.files.node? t.spool.place ≠ some .fullDevice) :
    Files.Opened path t.spool.place files t.files ∧
      t.Settled t.files t.spool.place (files.content t.spool.place) := by
  unfold ofPath at h
  rcases hopen : files.openForAppend path with ⟨_ | place, opened⟩
  · rw [hopen] at h
    cases h
  · rw [hopen] at h
    cases h
    have ho := Files.openForAppend_opened hopen
    obtain ⟨bytes, hbytes⟩ := ho.node.resolve_left hplace
    refine ⟨ho, ⟨rfl, ⟨bytes, hbytes, ?_⟩, fun q hq => rfl⟩, rfl⟩
    rw [List.append_nil, ← ho.extended.content_eq, Files.content_of_node? hbytes]

end JsonLines

end LogRouting
