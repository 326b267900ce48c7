import LogRouting.Proofs.Toml.Word
/-!
A document of plain tables reads back as its tables, line by line and then table by table. Main
statement: `parse?_laidOut`.
-/
namespace LogRouting.Toml

def Bare (key : String) : Prop :=
  key.toList ≠ [] ∧ key.toList.all isBareKeyChar = true

instance (key : String) : Decidable (Bare key) :=
  inferInstanceAs (Decidable (_ ∧ _))

/-- Tables that a document can give back: all keys are bare and no two of a table are the same. -/
structure Table.Plain (t : Table) : Prop where
  name_bare : Bare t.name
  keys_bare : ∀ e ∈ t.entries, Bare e.1
  keys_nodup : (t.entries.map Prod.fst).Nodup
  readable : ∀ e ∈ t.entries, e.2.Readable

def entryValue (e : String × Scalar) : String × Value :=
  (e.1, e.2.value)

def Table.value (t : Table) : String × Value :=
  (t.name, .table .header (t.entries.map entryValue))

def entryStatement (e : String × Scalar) : Statement :=
  .pair [] e.1 e.2.value

def Table.statements (t : Table) : List Statement :=
  .header [] t.name :: t.entries.map entryStatement

variable {c : Char} {s r : List Char} {key : String} {sts : List Statement}

/-! Lines -/

@[simp] theorem skipSpace_cons (hc : isSpace c = false) : skipSpace (c :: r) = c :: r :=
  List.dropWhile_cons_of_neg (by simp [hc])

theorem lineEnd?_cons (hc : isSpace c = false) (hcomment : c ≠ '#') (hline : c ≠ '\n')
    (hreturn : c ≠ '\r') : lineEnd? (c :: r) = none := by
  have hskip : skipComment (c :: r) = c :: r := by
    unfold skipComment
    split <;> simp_all
  rw [lineEnd?, skipSpace_cons hc, hskip]
  exact newline?_of_ne hline hreturn

@[simp] theorem lineEnd?_newline (r : List Char) : lineEnd? ('\n' :: r) = some r := rfl

theorem Bare.cons (h : Bare key) :
    ∃ c s, key.toList = c :: s ∧ isSpace c = false ∧
      (c ≠ '[' ∧ c ≠ '#' ∧ c ≠ '\n' ∧ c ≠ '\r' ∧ c ≠ '\x22' ∧ c ≠ '\x27') := by
  obtain ⟨hne, hchars⟩ := h
  cases hkey : key.toList with
  | nil => exact absurd hkey hne
  | cons c s =>
    have hc := List.all_eq_true.mp hchars c (by simp [hkey])
    refine ⟨c, s, rfl, ?_, ?_, ?_, ?_, ?_, ?_, ?_⟩
    · rw [isSpace, Bool.or_eq_false_iff]
      constructor <;> (rw [decide_eq_false_iff_not]; rintro rfl; revert hc; decide)
    all_goals
      rintro rfl
      revert hc
      decide

private theorem simpleKey?_bare (h : Bare key) (hc : isBareKeyChar c = false) :
    simpleKey? (key.toList ++ c :: r) = some (key, c :: r) := by
  have hspan := Text.span_append (r := r) (List.all_eq_true.mp h.2) hc
  obtain ⟨x, s, hkey, -, -, -, -, -, hquote, hquote'⟩ := h.cons
  have hname : String.ofList (x :: s) = key := by rw [← hkey, String.ofList_toList]
  rw [hkey] at hspan ⊢
  rw [List.cons_append] at hspan ⊢
  unfold simpleKey?
  split <;> simp_all

theorem key?_bare {x : Char} {r' : List Char} (bound : Nat) (h : Bare key)
    (hc : isBareKeyChar c = false) (hskip : skipSpace (c :: r) = x :: r') (hx : x ≠ '.') :
    key? (bound + 1) (key.toList ++ c :: r) = some (([], key), x :: r') := by
  have hsimple := simpleKey?_bare (r := r) h hc
  obtain ⟨y, s, hkey, hspace, -⟩ := h.cons
  rw [hkey] at hsimple ⊢
  rw [List.cons_append] at hsimple ⊢
  rw [key?, skipSpace_cons hspace, hsimple, Option.bind_eq_bind, Option.bind_some]
  dsimp only
  rw [hskip]
  split <;> simp_all

@[simp] theorem statement?_header (h : Bare key) (r : List Char) :
    statement? ('[' :: (key.toList ++ ']' :: r)) = some (.header [] key, r) := by
  have hkey : key? (nestingLimit - 1) (key.toList ++ ']' :: r) = some (([], key), ']' :: r) :=
    key?_bare (nestingLimit - 2) h (by decide) (skipSpace_cons (by decide)) (by decide)
  obtain ⟨x, s, hx, -, hbracket, -⟩ := h.cons
  rw [hx, List.cons_append] at hkey ⊢
  rw [statement?, skipSpace_cons (by decide)]
  split
  · simp_all
  · rename_i heq
    cases heq
    rw [hkey]
    rfl
  · simp_all

private theorem quoted_head (s : List Char) :
    ∃ c r, quoted s = c :: r ∧ isSpace c = false := by
  have hquote : isSpace (quotationOf s).quote = false := by
    rcases quotationOf_cases s with hq | hq | ⟨hq, -⟩ | ⟨hq, -⟩ <;> (rw [hq]; decide)
  have hdelimiter : ∃ r, (quotationOf s).delimiter = (quotationOf s).quote :: r := by
    unfold Quotation.delimiter
    split <;> exact ⟨_, rfl⟩
  obtain ⟨r, hr⟩ := hdelimiter
  rw [quoted, hr]
  exact ⟨_, _, rfl, hquote⟩

/-- What a text is read as where it ends a line, if it is a value. -/
structure Spells (s : List Char) (v? : Option Value) : Prop where
  skipSpace_eq : ∀ r, skipSpace (s ++ '\n' :: r) = s ++ '\n' :: r
  value?_eq : ∀ fuel room r, value? (fuel + 1) room (s ++ '\n' :: r) = v?.map (·, '\n' :: r)

@[simp] theorem skipSpace_word (hs : ∀ c ∈ s, isWordChar c = true) (hne : s ≠ []) (r : List Char) :
    skipSpace (s ++ r) = s ++ r := by
  cases s with
  | nil => exact absurd rfl hne
  | cons c s =>
    have hc := hs c List.mem_cons_self
    refine skipSpace_cons ?_
    rw [isSpace, Bool.or_eq_false_iff]
    constructor <;> (rw [decide_eq_false_iff_not]; rintro rfl; revert hc; decide)

theorem spells_word (hs : ∀ c ∈ s, isWordChar c = true) (hne : s ≠ []) :
    Spells s (scalar? s) where
  skipSpace_eq r := skipSpace_word hs hne ('\n' :: r)
  value?_eq fuel room _ := value?_word fuel room hs hne

@[simp] private theorem skipSpace_render (v : Scalar) (r : List Char) :
    skipSpace (v.render ++ r) = v.render ++ r := by
  cases v with
  | text s =>
    obtain ⟨c, t, ht, hc⟩ := quoted_head s.toList
    rw [Scalar.render, ht]
    exact skipSpace_cons hc
  | natural n =>
    have hword := isWordChar_signedNumeral n
    rw [Text.signedNumeral_natCast] at hword
    exact skipSpace_word hword (Text.numeral_ne_nil n) r
  | flag b => cases b <;> exact skipSpace_cons (by decide)

theorem spells_render {v : Scalar} (hv : v.Readable) : Spells v.render (some v.value) where
  skipSpace_eq r := skipSpace_render v ('\n' :: r)
  value?_eq fuel room _ := value?_render hv fuel room

theorem statement?_pair {v? : Option Value} (h : Bare key) (hs : Spells s v?) (r : List Char) :
    statement? (key.toList ++ ' ' :: '=' :: ' ' :: (s ++ '\n' :: r)) =
      v?.map (.pair [] key ·, '\n' :: r) := by
  have hkey : key? (nestingLimit - 1) (key.toList ++ ' ' :: '=' :: ' ' :: (s ++ '\n' :: r)) =
      some (([], key), '=' :: ' ' :: (s ++ '\n' :: r)) :=
    key?_bare (nestingLimit - 2) h (by decide) rfl (by decide)
  have hvalue := hs.value?_eq (2 * (s ++ '\n' :: r).length) (nestingLimit - 1) r
  have hspace : skipSpace (' ' :: (s ++ '\n' :: r)) = s ++ '\n' :: r := hs.skipSpace_eq r
  obtain ⟨x, t, hx, hspace', hbracket, -⟩ := h.cons
  rw [hx, List.cons_append] at hkey ⊢
  rw [statement?, skipSpace_cons hspace']
  split
  · simp_all
  · simp_all
  · rw [hkey, Option.bind_eq_bind, Option.bind_some]
    dsimp only
    rw [mark?, if_pos rfl, Option.bind_eq_bind, Option.bind_some, hspace, hvalue]
    cases v? <;> rfl

private theorem statement?_entry {e : String × Scalar} (h : Bare e.1) (hv : e.2.Readable)
    (r : List Char) :
    statement? (renderEntry e ++ r) = some (entryStatement e, '\n' :: r) := by
  have htext : renderEntry e ++ r =
      e.1.toList ++ ' ' :: '=' :: ' ' :: (e.2.render ++ '\n' :: r) := by simp [renderEntry]
  rw [htext]
  exact statement?_pair h (spells_render hv) r

theorem statements?_cons (fuel : Nat) (c : Char) (s : List Char) :
    statements? (fuel + 1) (c :: s) =
      match lineEnd? (c :: s) with
      | some r => statements? fuel r
      | none => (do
        let (st, r) ← statement? (c :: s)
        let sts ← statements? fuel (← lineEnd? r)
        some (st :: sts)) := by
  cases h : lineEnd? (c :: s) <;> simp [statements?, h]

/-- The text has these statements, whatever bound on their number the reader is given. -/
def Reads (s : List Char) (sts : List Statement) : Prop :=
  ∀ fuel, s.length ≤ fuel → statements? fuel s = some sts

theorem reads_nil : Reads [] [] := by
  intro fuel _
  rw [statements?]

private theorem reads_blank (h : Reads r sts) : Reads ('\n' :: r) sts := by
  intro fuel hfuel
  cases fuel with
  | zero => exact absurd hfuel (Nat.not_succ_le_zero _)
  | succ fuel =>
    rw [statements?_cons, lineEnd?_newline]
    exact h fuel (Nat.le_of_succ_le_succ hfuel)

theorem statements?_line {st : Statement} (fuel : Nat) (hline : lineEnd? (c :: s) = none)
    (hst : statement? (c :: s) = some (st, '\n' :: r)) :
    statements? (fuel + 1) (c :: s) = (statements? fuel r).map (st :: ·) := by
  rw [statements?_cons, hline]
  dsimp only
  rw [hst, Option.bind_eq_bind, Option.bind_some, lineEnd?_newline, Option.bind_eq_bind,
    Option.bind_some]
  cases statements? fuel r <;> rfl

theorem reads_line {st : Statement} (hline : lineEnd? (c :: s) = none)
    (hst : statement? (c :: s) = some (st, '\n' :: r)) (hlength : r.length ≤ s.length)
    (h : Reads r sts) : Reads (c :: s) (st :: sts) := by
  intro fuel hfuel
  cases fuel with
  | zero => exact absurd hfuel (Nat.not_succ_le_zero _)
  | succ fuel =>
    have hrest := h fuel (Nat.le_trans hlength (Nat.le_of_succ_le_succ hfuel))
    rw [statements?_line fuel hline hst, hrest]
    rfl

private theorem reads_entry {e : String × Scalar} (h : Bare e.1) (hv : e.2.Readable)
    (hr : Reads r sts) : Reads (renderEntry e ++ r) (entryStatement e :: sts) := by
  have hst := statement?_entry h hv r
  obtain ⟨x, s, hx, hspace, -, hcomment, hline, hreturn, -⟩ := h.cons
  have htext : renderEntry e ++ r =
      x :: (s ++ [' ', '=', ' '] ++ e.2.render ++ ['\n'] ++ r) := by simp [renderEntry, hx]
  rw [htext] at hst ⊢
  refine reads_line (lineEnd?_cons hspace hcomment hline hreturn) hst ?_ hr
  simp only [List.length_append]
  omega

theorem reads_entries {es : List (String × Scalar)} (hkeys : ∀ e ∈ es, Bare e.1)
    (hvalues : ∀ e ∈ es, e.2.Readable) (hr : Reads r sts) :
    Reads (es.flatMap renderEntry ++ r) (es.map entryStatement ++ sts) := by
  induction es with
  | nil => exact hr
  | cons e es ih =>
    have hrest := ih (fun x hx => hkeys x (List.mem_cons_of_mem e hx))
      (fun x hx => hvalues x (List.mem_cons_of_mem e hx))
    rw [List.flatMap_cons, List.append_assoc]
    exact reads_entry (hkeys e List.mem_cons_self) (hvalues e List.mem_cons_self) hrest

theorem reads_table {t : Table} (h : t.Plain) (hr : Reads r sts) :
    Reads (t.render ++ r) (t.statements ++ sts) := by
  have hst := statement?_header h.name_bare ('\n' :: (t.entries.flatMap renderEntry ++ r))
  have htext : t.render ++ r =
      '[' :: (t.name.toList ++ ']' :: '\n' :: (t.entries.flatMap renderEntry ++ r)) := by
    simp [Table.render]
  rw [htext]
  refine reads_line (lineEnd?_cons (by decide) (by decide) (by decide) (by decide)) hst ?_
    (reads_entries h.keys_bare h.readable hr)
  simp only [List.length_append, List.length_cons]
  omega

private theorem render_cons (t : Table) (ts : List Table) :
    render (t :: ts) = t.render ++ if ts = [] then [] else '\n' :: render ts := by
  cases ts with
  | nil => simp [render]
  | cons t' ts => simp [render]

inductive LaidOut : List Table → List Char → Prop
  | nil : LaidOut [] []
  | blank {ts : List Table} {s : List Char} : LaidOut ts s → LaidOut ts ('\n' :: s)
  | table {ts : List Table} {s : List Char} (t : Table) :
    LaidOut ts s → LaidOut (t :: ts) (t.render ++ s)

theorem laidOut_render (ts : List Table) (hr : LaidOut [] r) : LaidOut ts (render ts ++ r) := by
  induction ts with
  | nil => exact hr
  | cons t ts ih =>
    rw [render_cons, List.append_assoc]
    refine .table t ?_
    by_cases hts : ts = []
    · subst hts
      exact hr
    · rw [if_neg hts]
      exact .blank ih

theorem reads_laidOut {ts : List Table} (h : ∀ t ∈ ts, t.Plain) (hs : LaidOut ts s) :
    Reads s (ts.flatMap Table.statements) := by
  induction hs with
  | nil => exact reads_nil
  | blank _ ih => exact reads_blank (ih h)
  | table t _ ih =>
    rw [List.flatMap_cons]
    exact reads_table (h t List.mem_cons_self) (ih fun t' ht' => h t' (List.mem_cons_of_mem t ht'))

/-- A document starts with a bracket or a line end, so that there is no mark to skip. -/
theorem skipMark_laidOut {ts : List Table} (hs : LaidOut ts s) : skipMark s = s := by
  cases hs <;> rfl

/-! Tables -/

@[simp] theorem lookup_eq_none {es : Entries} (h : key ∉ es.map Prod.fst) :
    es.lookup key = none := by
  rw [List.lookup_eq_none_iff]
  intro e he
  simp only [bne_iff_ne, ne_eq]
  exact fun hkey => h (List.mem_map.mpr ⟨e, he, hkey.symm⟩)

@[simp] theorem insert_new {es : Entries} (v : Value) (h : key ∉ es.map Prod.fst) :
    es.insert .header [] key v = some (es ++ [(key, v)]) := by
  simp [Entries.insert, Entries.modifyAt, lookup_eq_none h]

@[simp] theorem detach_new {es : Entries} (h : key ∉ es.map Prod.fst) :
    es.detach [] key = some ([], es) := by
  simp [Entries.detach, Entries.modifyAt, lookup_eq_none h]

@[simp] theorem attach_new {es sub : Entries} (h : key ∉ es.map Prod.fst) :
    es.attach [] key sub = some (es ++ [(key, .table .header sub)]) := by
  simp [Entries.attach, Entries.modifyAt, lookup_eq_none h]

theorem foldlM_entries {es : List (String × Scalar)} (d : Document)
    (h : (d.current.map Prod.fst ++ es.map Prod.fst).Nodup) :
    (es.map entryStatement).foldlM Document.step d =
      some { d with current := d.current ++ es.map entryValue } := by
  induction es generalizing d with
  | nil => simp
  | cons e es ih =>
    have hnew : e.1 ∉ d.current.map Prod.fst := by
      intro he
      exact (List.nodup_append.mp h).2.2 e.1 he e.1 (by simp) rfl
    have hstep : Document.step d (entryStatement e) =
        some { d with current := d.current ++ [entryValue e] } := by
      rw [entryStatement, Document.step, insert_new _ hnew]
      rfl
    have hrest : ((d.current ++ [entryValue e]).map Prod.fst ++ es.map Prod.fst).Nodup := by
      simpa [entryValue] using h
    rw [List.map_cons, List.foldlM_cons, hstep, Option.bind_eq_bind, Option.bind_some,
      ih _ hrest]
    simp

theorem foldlM_tables {ts : List Table} {es : Entries} (d : Document) (hd : d.finish = some es)
    (hkeys : ∀ t ∈ ts, (t.entries.map Prod.fst).Nodup)
    (hnames : (es.map Prod.fst ++ ts.map Table.name).Nodup) :
    ∃ d', (ts.flatMap Table.statements).foldlM Document.step d = some d' ∧
      d'.finish = some (es ++ ts.map Table.value) := by
  induction ts generalizing d es with
  | nil => exact ⟨d, rfl, by rw [hd, List.map_nil, List.append_nil]⟩
  | cons t ts ih =>
    have hnew : t.name ∉ es.map Prod.fst := by
      intro ht
      exact (List.nodup_append.mp hnames).2.2 t.name ht t.name (by simp) rfl
    have hheader : Document.step d (.header [] t.name) =
        some ⟨es, [], .table [] t.name⟩ := by
      rw [Document.step, hd, Option.bind_eq_bind, Option.bind_some, detach_new hnew]
      rfl
    have hentries : (t.entries.map entryStatement).foldlM Document.step
        ⟨es, [], .table [] t.name⟩ = some ⟨es, t.entries.map entryValue, .table [] t.name⟩ :=
      foldlM_entries _ (by simpa using hkeys t List.mem_cons_self)
    have hfinish : Document.finish ⟨es, t.entries.map entryValue, .table [] t.name⟩ =
        some (es ++ [t.value]) := attach_new hnew
    have hrest : ((es ++ [t.value]).map Prod.fst ++ ts.map Table.name).Nodup := by
      simpa [Table.value] using hnames
    obtain ⟨d', hd', hfinish'⟩ :=
      ih _ hfinish (fun t' ht' => hkeys t' (List.mem_cons_of_mem t ht')) hrest
    refine ⟨d', ?_, by rw [hfinish', List.append_assoc]; rfl⟩
    rw [List.flatMap_cons, Table.statements, List.cons_append, List.foldlM_cons, hheader,
      Option.bind_eq_bind, Option.bind_some, List.foldlM_append, hentries, Option.bind_eq_bind,
      Option.bind_some, hd']

/-- Plain tables under different names read back. -/
theorem parse?_laidOut {ts : List Table} (h : ∀ t ∈ ts, t.Plain)
    (hnames : (ts.map Table.name).Nodup) (hs : LaidOut ts s) :
    parse? s = some (ts.map Table.value) := by
  have hreads := reads_laidOut h hs _ (Nat.le_refl _)
  have hkeys : ∀ t ∈ ts, (t.entries.map Prod.fst).Nodup := fun t ht => (h t ht).keys_nodup
  obtain ⟨d, hd, hfinish⟩ := foldlM_tables Document.empty rfl hkeys hnames
  rw [parse?, skipMark_laidOut hs, hreads, Option.bind_eq_bind, Option.bind_some,
    Document.build?, hd, Option.bind_eq_bind, Option.bind_some, hfinish]
  rfl

theorem parse?_render {ts : List Table} (h : ∀ t ∈ ts, t.Plain)
    (hnames : (ts.map Table.name).Nodup) :
    parse? (render ts) = some (ts.map Table.value) ∧
      parse? (render ts ++ ['\n']) = some (ts.map Table.value) := by
  have hend := laidOut_render ts .nil
  rw [List.append_nil] at hend
  exact ⟨parse?_laidOut h hnames hend,
    parse?_laidOut h hnames (laidOut_render ts (.blank .nil))⟩

/-! A single pair -/

def single (name key : String) (value : List Char) : List Char :=
  '[' :: (name.toList ++ ']' :: '\n' :: (key.toList ++ ' ' :: '=' :: ' ' :: (value ++ ['\n'])))

theorem parse?_single {name : String} {v? : Option Value} (hname : Bare name) (hkey : Bare key)
    (hs : Spells s v?) :
    parse? (single name key s) = v?.map fun v => [(name, .table .header [(key, v)])] := by
  have hheader := statement?_header hname
    ('\n' :: (key.toList ++ ' ' :: '=' :: ' ' :: (s ++ ['\n'])))
  have hpair := statement?_pair hkey hs []
  have hlength : ∃ fuel, (single name key s).length = fuel + 3 := by
    refine ⟨(single name key s).length - 3, ?_⟩
    simp only [single, List.length_cons, List.length_append]
    omega
  obtain ⟨fuel, hfuel⟩ := hlength
  have hstatements : statements? (single name key s).length (single name key s) =
      v?.map fun v => [.header [] name, .pair [] key v] := by
    obtain ⟨x, t, hx, hspace, -, hcomment, hline, hreturn, -⟩ := hkey.cons
    rw [hfuel, single,
      statements?_line _ (lineEnd?_cons (by decide) (by decide) (by decide) (by decide)) hheader]
    rw [hx, List.cons_append] at hpair ⊢
    have hopen := lineEnd?_cons (r := t ++ ' ' :: '=' :: ' ' :: (s ++ ['\n'])) hspace hcomment
      hline hreturn
    cases v? with
    | none =>
      rw [statements?_cons, hopen]
      dsimp only
      rw [hpair]
      rfl
    | some v =>
      rw [statements?_line _ hopen hpair, reads_nil _ (Nat.zero_le _)]
      rfl
  have hmark : skipMark (single name key s) = single name key s := rfl
  rw [parse?, hmark, hstatements]
  cases v? with
  | none => rfl
  | some v =>
    have hnew : ∀ key : String, key ∉ ([] : Entries).map Prod.fst := by simp
    simp [Document.build?, Document.step, Document.empty, Document.finish, detach_new (hnew _),
      insert_new _ (hnew _), attach_new (hnew _)]

end LogRouting.Toml
