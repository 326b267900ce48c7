import LogRouting.Files
/-!
What opening a file for appending does to the files that are there: directories may be added, and
one empty file, but nothing is lost or gained in a file. Main statement: `openForAppend_opened`.
-/
namespace LogRouting.Files

variable {fs fs' : Files} {p q : Place} {n : FileNode} {path : String}

def content (fs : Files) (p : Place) : List UInt8 :=
  match fs.node? p with
  | some (.file bytes) => bytes
  | _ => []

theorem content_of_node? {bytes : List UInt8} (h : fs.node? p = some (.file bytes)) :
    fs.content p = bytes := by
  rw [content, h]

@[simp] private theorem node?_anchor (h : isAnchor p = true) : fs.node? p = some .directory :=
  if_pos h

theorem lookup_filter_ne {α β : Type} [DecidableEq α] [BEq α] [LawfulBEq α] {l : List (α × β)}
    {k k' : α} (h : k ≠ k') : (l.filter (·.1 ≠ k')).lookup k = l.lookup k := by
  induction l with
  | nil => rfl
  | cons e l ih =>
    by_cases he : e.1 = k'
    · have hk : (k == e.1) = false := by simpa [he] using h
      rw [List.filter_cons_of_neg (by simpa using he), ih, List.lookup_cons, hk]
    · rw [List.filter_cons_of_pos (by simpa using he), List.lookup_cons, List.lookup_cons, ih]

@[simp] theorem node?_put_of_ne (h : q ≠ p) : (fs.put p n).node? q = fs.node? q := by
  have hq : (q == p) = false := by simpa using h
  unfold node?
  split
  · rfl
  · rw [put, List.lookup_cons, hq]
    exact lookup_filter_ne h

@[simp] theorem node?_put_self (h : fs.node? p ≠ some .directory) :
    (fs.put p n).node? p = some n := by
  have hanchor : isAnchor p = false := by
    cases ha : isAnchor p with
    | false => rfl
    | true => exact absurd (node?_anchor ha) h
  simp [node?, hanchor, put]

private theorem follow_cons (fs : Files) (start : Place) (step next : String) (rest : Place) :
    fs.follow start (step :: next :: rest) =
      if fs.node? (advance start step) = some .directory then
        fs.follow (advance start step) (next :: rest)
      else none := by
  rw [follow]
  exact List.cons_ne_nil next rest

theorem follow_mono (h : ∀ q, fs.node? q = some .directory → fs'.node? q = some .directory)
    {start steps : Place} (hf : fs.follow start steps = some p) :
    fs'.follow start steps = some p := by
  induction steps generalizing start with
  | nil => exact hf
  | cons step rest ih =>
    cases rest with
    | nil => exact hf
    | cons next rest =>
      rw [follow_cons] at hf ⊢
      split at hf
      · rename_i hnode
        rw [if_pos (h _ hnode)]
        exact ih hf
      · cases hf

theorem locate?_mono (h : ∀ q, fs.node? q = some .directory → fs'.node? q = some .directory)
    (hl : fs.locate? path = some p) : fs'.locate? path = some p := by
  unfold locate? at *
  split at hl
  · rename_i hpath
    rw [if_pos hpath]
    exact follow_mono h hl
  · cases hl

private theorem bytes?_eq_some {bytes : List UInt8} (h : fs.bytes? path = some bytes) :
    ∃ p, fs.locate? path = some p ∧ fs.node? p = some (.file bytes) := by
  simp only [bytes?, Option.bind_eq_bind, Option.bind_eq_some_iff] at h
  obtain ⟨p, hp, n, hn, h⟩ := h
  cases n with
  | file content =>
    simp only [Option.ite_none_left_eq_some, Option.some.injEq] at h
    exact ⟨p, hp, h.2 ▸ hn⟩
  | _ => cases h

theorem bytes?_of_locate? {bytes : List UInt8} (hp : fs.locate? path = some p)
    (hn : fs.node? p = some (.file bytes)) (hd : endsInDirectory path = false) :
    fs.bytes? path = some bytes := by
  simp [bytes?, hp, hn, hd]

private theorem directory_make? (hp : fs.node? p = none) (h : fs.make? p n = some fs')
    (hq : fs.node? q = some .directory) : fs'.node? q = some .directory := by
  unfold make? at h
  split at h
  · cases h
    have hne : q ≠ p := by
      intro hqp
      rw [hqp, hp] at hq
      cases hq
    rwa [node?_put_of_ne hne]
  · cases h

private theorem content_make? (hp : fs.node? p = none) (hn : n = .directory ∨ n = .file [])
    (h : fs.make? p n = some fs') (q : Place) : fs'.content q = fs.content q := by
  unfold make? at h
  split at h
  · cases h
    by_cases hq : q = p
    · have hself : (fs.put p n).node? p = some n := node?_put_self (by simp [hp])
      rw [hq, content, content, hself, hp]
      rcases hn with rfl | rfl <;> rfl
    · rw [content, content, node?_put_of_ne hq]
  · cases h

/-- Directories are still there, and no content is other than it was. -/
structure Extended (fs fs' : Files) : Prop where
  content_eq : ∀ q, fs'.content q = fs.content q
  directory : ∀ q, fs.node? q = some .directory → fs'.node? q = some .directory

theorem Extended.refl (fs : Files) : Extended fs fs :=
  ⟨fun _ => rfl, fun _ h => h⟩

theorem Extended.trans {fs'' : Files} (h : Extended fs fs') (h' : Extended fs' fs'') :
    Extended fs fs'' :=
  ⟨fun q => (h'.content_eq q).trans (h.content_eq q),
    fun q hq => h'.directory q (h.directory q hq)⟩

theorem extended_make? (hp : fs.node? p = none) (hn : n = .directory ∨ n = .file [])
    (h : fs.make? p n = some fs') : Extended fs fs' :=
  ⟨content_make? hp hn h, fun _ => directory_make? hp h⟩

private theorem extended_makeSteps (steps start : Place) (fs : Files) :
    Extended fs (fs.makeSteps start steps).2 := by
  induction steps generalizing start fs with
  | nil => exact .refl fs
  | cons step rest ih =>
    rw [makeSteps]
    cases hnode : fs.node? (advance start step) with
    | none =>
      cases hmake : fs.make? (advance start step) .directory with
      | none => exact .refl fs
      | some fs' => exact (extended_make? hnode (.inl rfl) hmake).trans (ih _ fs')
    | some n =>
      cases n with
      | directory => exact ih _ fs
      | _ => exact .refl fs

theorem extended_makeDirectories (fs : Files) (path : String) :
    Extended fs (fs.makeDirectories path).2 := by
  unfold makeDirectories
  split
  · exact extended_makeSteps (steps path) [] fs
  · exact .refl fs

/-- A file that is open for appending stands where the path leads. -/
structure Opened (path : String) (place : Place) (fs fs' : Files) : Prop where
  extended : Extended fs fs'
  located : fs'.locate? path = some place
  no_directory : endsInDirectory path = false
  node : fs'.node? place = some .fullDevice ∨ ∃ bytes, fs'.node? place = some (.file bytes)

theorem Opened.content_of_bytes? (h : Opened path p fs fs') {bytes : List UInt8}
    (hread : fs.bytes? path = some bytes) : fs.content p = bytes := by
  obtain ⟨q, hq, hnode⟩ := bytes?_eq_some hread
  have hplace : some q = some p := (locate?_mono h.extended.directory hq).symm.trans h.located
  exact content_of_node? (Option.some.inj hplace ▸ hnode)

theorem openFile?_opened (h : fs.openFile? path = some (p, fs')) : Opened path p fs fs' := by
  simp only [openFile?, Option.bind_eq_bind, Option.bind_eq_some_iff] at h
  obtain ⟨place, hplace, h⟩ := h
  split at h
  · cases h
  rename_i hd
  have hd' : endsInDirectory path = false := by simpa using hd
  cases hnode : fs.node? place with
  | none =>
    rw [hnode] at h
    obtain ⟨made, hmake, h⟩ := Option.map_eq_some_iff.mp h
    cases h
    have hextended := extended_make? hnode (.inr rfl) hmake
    have hnone : fs.node? p ≠ some .directory := by simp [hnode]
    have hmade : fs'.node? p = some (.file []) := by
      unfold make? at hmake
      split at hmake
      · cases hmake
        exact node?_put_self hnone
      · cases hmake
    exact ⟨hextended, locate?_mono hextended.directory hplace, hd', .inr ⟨[], hmade⟩⟩
  | some n =>
    rw [hnode] at h
    cases n with
    | directory => cases h
    | file text =>
      cases h
      exact ⟨.refl fs, hplace, hd', .inr ⟨text, hnode⟩⟩
    | fullDevice =>
      cases h
      exact ⟨.refl fs, hplace, hd', .inl hnode⟩

theorem openForAppend_opened (h : fs.openForAppend path = (some p, fs')) :
    Opened path p fs fs' := by
  have hmade := extended_makeDirectories fs (parent path)
  unfold openForAppend at h
  rcases hdirs : fs.makeDirectories (parent path) with ⟨_ | _, made⟩
  · rw [hdirs] at h
    cases h
  · rw [hdirs] at h hmade
    dsimp only at h
    cases hopen : made.openFile? path with
    | none =>
      rw [hopen] at h
      cases h
    | some result =>
      obtain ⟨place, files⟩ := result
      rw [hopen] at h
      cases h
      obtain ⟨hextended, hlocated, hd, hnode⟩ := openFile?_opened hopen
      exact ⟨hmade.trans hextended, hlocated, hd, hnode⟩

end LogRouting.Files
