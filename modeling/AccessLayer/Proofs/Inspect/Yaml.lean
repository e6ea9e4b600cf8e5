import AccessLayer.Inspect.Yaml
import AccessLayer.Proofs.Inspect.YamlScalar

namespace AccessLayer

open YamlScalar (IsUnbroken)

/-- Where a scalar is a text, that has no line break. -/
def Scalar.IsUnbroken : Scalar → Prop
  | .text s => YamlScalar.IsUnbroken s
  | .null | .bool _ => True

/-- The record has these names in order, and its values stand on one line. -/
structure Record.Shaped (names : List String) (r : Record) : Prop where
  names : r.map Prod.fst = names
  values : ∀ e ∈ r, e.2.IsUnbroken

/-- Records of one shape are as long as the list of their names. -/
theorem Record.Shaped.length {names : List String} {r : Record} (h : r.Shaped names) :
    r.length = names.length := by
  rw [← h.names, List.length_map]

/-- What is shown of the table, and of each column, has these names in order. -/
structure TableView.Shaped (names columnNames : List String) (v : TableView) : Prop where
  facts : v.facts.Shaped names
  columns : ∀ c ∈ v.columns, c.Shaped columnNames

namespace Yaml

/-- What is no text is written as a word that no text is written as. -/
theorem scalar_mem_reservedWords {v : Scalar} (hv : ∀ s, v ≠ .text s) (indent : Nat) :
    scalar indent v ∈ YamlScalar.reservedWords := by
  rcases v with _ | (_ | _) | s
  case text => exact absurd rfl (hv s)
  all_goals simp [scalar, YamlScalar.reservedWords]

/-- Scalars on one line are not written alike unless they are the same. -/
theorem scalar_injOn (indent : Nat) : Set.InjOn (scalar indent) {v | v.IsUnbroken} := by
  have hword {s : String} (hs : IsUnbroken s) {v : Scalar} (hv : ∀ s, v ≠ .text s)
      (h : scalar indent v = scalar indent (.text s)) : False := by
    have hmem := scalar_mem_reservedWords hv indent
    rw [h] at hmem
    exact YamlScalar.render_notMem_reservedWords hs _ hmem
  intro v hv w hw h
  rcases v with _ | (_ | _) | s <;> rcases w with _ | (_ | _) | t
  case text.text => rw [YamlScalar.render_injOn _ hv hw h]
  case text.null | text.bool.false | text.bool.true => exact (hword hv (by simp) h.symm).elim
  case null.text | bool.false.text | bool.true.text => exact (hword hw (by simp) h).elim
  all_goals simp_all [scalar]

example : scalar 4 .null = "null" ∧ scalar 4 (.text "null") = "'null'" ∧
    scalar 4 (.text "12") = "'12'" ∧ scalar 4 (.text "it's") = "it's" := by decide +kernel

private theorem isUnbroken_scalar {v : Scalar} (hv : v.IsUnbroken) (indent : Nat) :
    IsUnbroken (scalar indent v) := by
  have hwords : ∀ w ∈ YamlScalar.reservedWords, IsUnbroken w := by decide
  cases v with
  | text s => exact YamlScalar.isUnbroken_render hv _
  | null | bool b => exact hwords _ (scalar_mem_reservedWords (by simp) indent)

/-- The blanks in front of a line. -/
def pad (n : Nat) : String := String.ofList (List.replicate n ' ')

/-- A name and its scalar, as they stand on a line. -/
def entry (indent : Nat) (e : String × Scalar) : String := e.1 ++ ": " ++ scalar indent e.2

private theorem item_cons (indent : Nat) (e : String × Scalar) (r : Record) :
    item indent (e :: r) =
      (pad (indent - 2) ++ "- " ++ entry indent e) :: r.map (pad indent ++ entry indent ·) := rfl

private theorem length_item (indent : Nat) (r : Record) : (item indent r).length = r.length := by
  cases r with
  | nil => rfl
  | cons e r => rw [item_cons, List.length_cons, List.length_map, List.length_cons]

private theorem entry_inj {indent : Nat} {before : String} {e f : String × Scalar}
    (hname : e.1 = f.1) (he : e.2.IsUnbroken) (hf : f.2.IsUnbroken)
    (h : before ++ entry indent e = before ++ entry indent f) : e = f := by
  have hlist := congrArg String.toList h
  simp only [entry, hname, String.toList_append] at hlist
  have hvalue := List.append_cancel_left (List.append_cancel_left hlist)
  exact Prod.ext hname (scalar_injOn indent he hf (String.toList_inj.mp hvalue))

private theorem entries_inj {indent : Nat} {before : String} {names : List String} {r r' : Record}
    (hr : r.Shaped names) (hr' : r'.Shaped names)
    (h : r.map (before ++ entry indent ·) = r'.map (before ++ entry indent ·)) : r = r' := by
  induction r generalizing r' names with
  | nil => exact (List.map_eq_nil_iff.mp h.symm).symm
  | cons e r ih =>
    cases r' with
    | nil => simp at h
    | cons f r' =>
      obtain ⟨hfirst, hrest⟩ := List.cons.inj h
      obtain ⟨hname, hnames⟩ := List.cons.inj (hr.names.trans hr'.names.symm)
      rw [entry_inj hname (hr.values e (by simp)) (hr'.values f (by simp)) hfirst]
      rw [ih ⟨rfl, fun g hg => hr.values g (by simp [hg])⟩
        ⟨hnames.symm, fun g hg => hr'.values g (by simp [hg])⟩ hrest]

/-- Records of one shape are told apart by their items, line by line. -/
theorem item_inj {indent : Nat} {names : List String} {r r' : Record} (hr : r.Shaped names)
    (hr' : r'.Shaped names) (h : item indent r = item indent r') : r = r' := by
  cases r with
  | nil =>
    have hlength := congrArg List.length h
    rw [length_item, length_item] at hlength
    exact (List.eq_nil_of_length_eq_zero hlength.symm).symm
  | cons e r =>
    cases r' with
    | nil => simp [item] at h
    | cons f r' =>
      rw [item_cons, item_cons] at h
      obtain ⟨hfirst, hrest⟩ := List.cons.inj h
      obtain ⟨hname, hnames⟩ := List.cons.inj (hr.names.trans hr'.names.symm)
      rw [entry_inj hname (hr.values e (by simp)) (hr'.values f (by simp)) hfirst]
      rw [entries_inj ⟨rfl, fun g hg => hr.values g (by simp [hg])⟩
        ⟨hnames.symm, fun g hg => hr'.values g (by simp [hg])⟩ hrest]

/-- As many lines as there are names are the item of a record. -/
theorem readsBack_item (names : List String) (indent : Nat) :
    ReadsBack (fun r : Record => r.Shaped names) (fun _ => True) (item indent) :=
  .of_length (fun _ hr => (length_item indent _).trans hr.length) fun _ _ hr hr' => item_inj hr hr'

/-- The lines go on with nothing that is further in than a table. -/
def EndsColumns (lines : List String) : Prop := ∀ l ∈ lines.head?, l.toList.head? ≠ some ' '

/-- The lines in which the columns of a table are shown. -/
def columnLines (columns : List Record) : List String :=
  if columns.isEmpty then ["  columns: []"] else "  columns:" :: columns.flatMap (item 4)

variable {names columnNames : List String}

private theorem readsBack_columnLines (hnames : columnNames ≠ []) :
    ReadsBack (fun columns : List Record => ∀ c ∈ columns, c.Shaped columnNames) EndsColumns
      columnLines := by
  have hitems : ReadsBack (fun columns : List Record => ∀ c ∈ columns, c.Shaped columnNames)
      EndsColumns (List.flatMap (item 4)) := by
    refine (readsBack_item columnNames 4).flatMap (fun _ _ => trivial) (fun _ _ _ => trivial)
      fun r lines hr hend => ?_
    cases r with
    | nil => exact hnames hr.names.symm
    | cons e r => exact hend _ rfl (by simp)
  rintro (_ | ⟨c, columns⟩) (_ | ⟨d, columns'⟩) x y hc hd hx hy h
  · exact ⟨rfl, (List.cons.inj h).2⟩
  · exact absurd (List.cons.inj h).1 (by decide)
  · exact absurd (List.cons.inj h).1 (by decide)
  · exact hitems hc hd hx hy (List.cons.inj h).2

/-- The lines of a table are read back up to where its columns end. -/
theorem readsBack_table (hcolumnNames : columnNames ≠ []) :
    ReadsBack (fun v : TableView => v.Shaped names columnNames) EndsColumns table := by
  have hparts := (readsBack_item names 2).prod (readsBack_columnLines hcolumnNames)
    fun _ _ _ _ => trivial
  exact hparts.comp (f := fun v : TableView => (v.facts, v.columns))
    (fun v _ w _ h => by cases v; cases w; simp_all) fun v hv => ⟨hv.facts, hv.columns⟩

private theorem head_table (hnames : names ≠ []) {v : TableView} (hv : v.Shaped names columnNames) :
    ∃ l lines, table v = l :: lines ∧ l.toList.head? = some '-' := by
  obtain ⟨facts, columns⟩ := v
  cases facts with
  | nil => exact absurd hv.facts.names.symm hnames
  | cons e facts => exact ⟨_, _, rfl, by simp⟩

/-- The lines of some tables are read back to the end: each table starts with a dash at the margin,
    which none of the lines above it does. -/
theorem readsBack_tables (hnames : names ≠ []) (hcolumnNames : columnNames ≠ []) :
    ReadsBack (fun views : List TableView => ∀ v ∈ views, v.Shaped names columnNames) (· = [])
      (List.flatMap table) := by
  refine (readsBack_table hcolumnNames).flatMap (fun x hx => ?_) (fun v x hv => ?_)
    fun v x hv hend => ?_
  · subst hx
    nofun
  · obtain ⟨l, lines, htable, hl⟩ := head_table hnames hv
    rw [htable]
    intro first hfirst
    obtain rfl : l = first := by simpa using hfirst
    simp [hl]
  · obtain ⟨l, lines, htable, -⟩ := head_table hnames hv
    rw [htable] at hend
    cases hend

private theorem ended_of_isUnbroken {l : String} (h : IsUnbroken l) : ended l = l ++ "\n" := by
  have hlast : l.toList.getLast?.any YamlScalar.isBreak = false := by
    cases hget : l.toList.getLast? with
    | none => rfl
    | some c => exact h c (List.mem_of_getLast? hget)
  rw [ended, hlast, if_neg Bool.false_ne_true]

/-- A line is read up to its end. -/
theorem readsBack_line : ReadsBack IsUnbroken (fun _ => True) fun l : String => (ended l).toList := by
  refine .of_reader (fun cs => some (String.ofList (cs.takeWhile (· ≠ '\n')),
    (cs.dropWhile (· ≠ '\n')).tail)) fun l rest hl _ => ?_
  have hsolid : ∀ c ∈ l.toList, decide (c ≠ '\n') = true := by
    intro c hc
    refine decide_eq_true ?_
    rintro rfl
    cases hl _ hc
  rw [ended_of_isUnbroken hl, String.toList_append, List.append_assoc,
    List.takeWhile_append_of_pos hsolid, List.dropWhile_append_of_pos hsolid]
  simp

/-- The lines of the document. -/
def lines (views : List TableView) : List String :=
  if views.isEmpty then ["[]"] else views.flatMap table

private theorem render_eq_join_lines (views : List TableView) :
    render views = String.join ((lines views).map ended) := by
  unfold render lines
  split
  · rfl
  · rfl

private theorem isUnbroken_pad (n : Nat) : IsUnbroken (pad n) := by
  intro c hc
  rw [pad, String.toList_ofList] at hc
  rw [List.eq_of_mem_replicate hc]
  rfl

private theorem isUnbroken_item {indent : Nat} {r : Record} (hr : r.Shaped names)
    (hnames : ∀ n ∈ names, IsUnbroken n) : ∀ l ∈ item indent r, IsUnbroken l := by
  have hentry : ∀ e ∈ r, IsUnbroken (entry indent e) := by
    intro e he
    have hname : e.1 ∈ names := hr.names ▸ List.mem_map_of_mem he
    exact YamlScalar.isUnbroken_append
      (YamlScalar.isUnbroken_append (hnames _ hname) (by decide))
      (isUnbroken_scalar (hr.values e he) indent)
  cases r with
  | nil => nofun
  | cons e r =>
    intro l hl
    rw [item_cons] at hl
    rcases List.mem_cons.mp hl with rfl | hl
    · exact YamlScalar.isUnbroken_append
        (YamlScalar.isUnbroken_append (isUnbroken_pad _) (by decide)) (hentry e (by simp))
    · obtain ⟨f, hf, rfl⟩ := List.mem_map.mp hl
      exact YamlScalar.isUnbroken_append (isUnbroken_pad _) (hentry f (by simp [hf]))

private theorem isUnbroken_lines {views : List TableView}
    (hviews : ∀ v ∈ views, v.Shaped names columnNames) (hnames : ∀ n ∈ names, IsUnbroken n)
    (hcolumnNames : ∀ n ∈ columnNames, IsUnbroken n) : ∀ l ∈ lines views, IsUnbroken l := by
  have htitles : IsUnbroken "[]" ∧ IsUnbroken "  columns: []" ∧ IsUnbroken "  columns:" := by decide
  intro l hl
  unfold lines at hl
  split at hl
  · rw [List.mem_singleton.mp hl]
    exact htitles.1
  obtain ⟨v, hv, hl⟩ := List.mem_flatMap.mp hl
  rcases List.mem_append.mp hl with hfact | hcolumns
  · exact isUnbroken_item (hviews v hv).facts hnames l hfact
  split at hcolumns
  · rw [List.mem_singleton.mp hcolumns]
    exact htitles.2.1
  rcases List.mem_cons.mp hcolumns with rfl | hcolumn
  · exact htitles.2.2
  · obtain ⟨c, hc, hl⟩ := List.mem_flatMap.mp hcolumn
    exact isUnbroken_item ((hviews v hv).columns c hc) hcolumnNames l hl

/-- Lists of views of one shape are told apart by their lines. -/
theorem lines_injOn (hne : names ≠ []) (hcolumnNe : columnNames ≠ []) :
    Set.InjOn lines {views | ∀ v ∈ views, v.Shaped names columnNames} := by
  have hmixed {v : TableView} {views : List TableView} (hv : v.Shaped names columnNames) :
      ["[]"] ≠ (v :: views).flatMap table := by
    obtain ⟨l, more, htable, hl⟩ := head_table hne hv
    rw [List.flatMap_cons, htable]
    rintro h
    rw [← (List.cons.inj h).1] at hl
    exact absurd hl (by decide)
  rintro (_ | ⟨v, views⟩) hviews (_ | ⟨w, views'⟩) hviews' h
  · rfl
  · exact absurd h (hmixed (hviews' w (by simp)))
  · exact absurd h.symm (hmixed (hviews v (by simp)))
  · exact (readsBack_tables hne hcolumnNe).injOn rfl hviews hviews' h

/-- No two lists of views that name the same things are written alike. -/
theorem render_injOn (hne : names ≠ []) (hcolumnNe : columnNames ≠ [])
    (hnames : ∀ n ∈ names, IsUnbroken n) (hcolumnNames : ∀ n ∈ columnNames, IsUnbroken n) :
    Set.InjOn render {views | ∀ v ∈ views, v.Shaped names columnNames} := by
  intro views hviews views' hviews' h
  have hread : ReadsBack (fun ls : List String => ∀ l ∈ ls, IsUnbroken l) (· = [])
      (List.flatMap fun l => (ended l).toList) := by
    refine readsBack_line.flatMap (fun _ _ => trivial) (fun _ _ _ => trivial) fun l x hl hend => ?_
    rw [ended_of_isUnbroken hl] at hend
    simp at hend
  have hlist := congrArg String.toList h
  rw [render_eq_join_lines, render_eq_join_lines, String.toList_join, String.toList_join,
    List.flatMap_map, List.flatMap_map] at hlist
  exact lines_injOn hne hcolumnNe hviews hviews' <|
    hread.injOn rfl (isUnbroken_lines hviews hnames hcolumnNames)
      (isUnbroken_lines hviews' hnames hcolumnNames) hlist

end Yaml

end AccessLayer
