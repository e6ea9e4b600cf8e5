import AccessLayer.Proofs.Blueprint.Queries
import AccessLayer.Proofs.Text.Inline
import Mathlib.Data.List.Perm.Subperm

namespace AccessLayer

namespace Text

/-- The names that a text mentions, in order. A name stands behind a colon and reaches up to the
    next character that is no word character. The names are those of parameters, which are passed by
    name. -/
def mentions : List Char → List String
  | [] => []
  | c :: cs =>
    if c = ':' ∧ cs.takeWhile isWord ≠ [] then
      String.ofList (cs.takeWhile isWord) :: mentions cs
    else mentions cs

/-- A text without colons may be left out in front. -/
theorem mentions_append_of_notMem {cs : List Char} (h : ':' ∉ cs) (more : List Char) :
    mentions (cs ++ more) = mentions more := by
  induction cs with
  | nil => rfl
  | cons c cs ih =>
    rw [List.mem_cons, not_or] at h
    rw [List.cons_append, mentions, if_neg (fun hcolon => h.1 hcolon.1.symm), ih h.2]

/-- A text without colons mentions nothing. -/
theorem mentions_of_notMem {cs : List Char} (h : ':' ∉ cs) : mentions cs = [] := by
  have hnone := mentions_append_of_notMem h []
  rwa [List.append_nil] at hnone

/-- A name that is mentioned ends where something follows that does not go on with it. -/
theorem mentions_name {name : String} (hname : IsName name.toList) {more : List Char}
    (hmore : more.takeWhile isWord = []) :
    mentions ((":" ++ name).toList ++ more) = name :: mentions more := by
  have hcolon : ':' ∉ name.toList := hname.not_mem (by decide)
  have hread : (name.toList ++ more).takeWhile isWord = name.toList := takeWhile_name hname hmore
  have htext : (":" ++ name).toList ++ more = ':' :: (name.toList ++ more) := by simp
  rw [htext, mentions, hread, if_pos ⟨rfl, hname.1⟩, String.ofList_toList,
    mentions_append_of_notMem hcolon]

/-- Names that are mentioned one after the other, each behind a lead without colons. -/
theorem mentions_intercalate {α : Type} (text name : α → String) {xs : List α}
    (htext : ∀ x ∈ xs, ∃ lead, ':' ∉ lead.toList ∧ text x = lead ++ (":" ++ name x))
    (hname : ∀ x ∈ xs, IsName (name x).toList) {more : List Char}
    (hmore : more.takeWhile isWord = []) :
    mentions ((", ".intercalate (xs.map text)).toList ++ more) = xs.map name ++ mentions more := by
  induction xs with
  | nil => simp
  | cons x xs ih =>
    have hrest := ih (fun y hy => htext y (by simp [hy])) (fun y hy => hname y (by simp [hy]))
    have hhere (rest : List Char) (hend : rest.takeWhile isWord = []) :
        mentions ((text x).toList ++ rest) = name x :: mentions rest := by
      obtain ⟨lead, hlead, hx⟩ := htext x (by simp)
      rw [hx, String.toList_append, List.append_assoc, mentions_append_of_notMem hlead,
        mentions_name (hname x (by simp)) hend]
    cases xs with
    | nil =>
      rw [List.map_singleton, String.intercalate_singleton, hhere more hmore]
      rfl
    | cons y xs =>
      have hcomma (rest : List Char) : (", ".toList ++ rest).takeWhile isWord = [] := by
        rw [String.toList_ofList]
        rfl
      rw [List.map_cons, List.map_cons, String.intercalate_cons_cons, String.toList_append,
        String.toList_append, List.append_assoc, List.append_assoc, hhere _ (hcomma _),
        mentions_append_of_notMem (by decide)]
      exact congrArg (name x :: ·) hrest

end Text

open Text

namespace Blueprint

/-- The preferred names of the key's parameter differ in length. -/
theorem paramName_injective : Function.Injective paramName := by
  intro n m h
  have hlength := congrArg (fun s => s.toList.length) h
  simpa [paramName] using hlength

/-- Of more parameter names than there are columns, one is no column's. -/
theorem exists_free (columns : List String) :
    ∃ n < columns.length + 1, paramName n ∉ columns := by
  by_contra hnone
  have hsub : (List.range (columns.length + 1)).map paramName ⊆ columns := by
    intro name hname
    obtain ⟨n, hn, rfl⟩ := List.mem_map.mp hname
    by_contra hfree
    exact hnone ⟨n, List.mem_range.mp hn, hfree⟩
  have hnodup := (List.nodup_range (n := columns.length + 1)).map paramName_injective
  have hle := (List.subperm_of_subset hnodup hsub).length_le
  rw [List.length_map, List.length_range] at hle
  omega

/-- No column has the name of the key's parameter. -/
theorem keyParam_notMem (columns : List String) : keyParam columns ∉ columns := by
  unfold keyParam
  cases hfind : (List.range (columns.length + 1)).find? fun n => !columns.contains (paramName n) with
  | some n => simpa using List.find?_some hfind
  | none =>
    obtain ⟨n, hn, hfree⟩ := exists_free columns
    have htaken := List.find?_eq_none.mp hfind n (List.mem_range.mpr hn)
    simp [hfree] at htaken

private theorem isName_keyParam (columns : List String) : IsName (keyParam columns).toList := by
  have hname (n : Nat) : IsName (paramName n).toList := by
    refine ⟨by simp [paramName], fun c hc => ?_⟩
    rw [paramName, String.toList_append] at hc
    rcases List.mem_append.mp hc with hstem | hmark
    · have hall : "entity_id".toList.all isWord = true := by decide +kernel
      exact List.all_eq_true.mp hall c hstem
    · rw [String.toList_ofList] at hmark
      rw [List.eq_of_mem_replicate hmark]
      decide
  exact hname _

/-- The values that are passed to the statement of an operation, each with the name that it is
    passed under, as they are spelled. -/
def named (b : Blueprint) : Operation → List (String × String)
  | .findById => [(b.key.param, "entity_id")]
  | .findAll => []
  | .create => b.queries.insertFields.map fun f => (f.column, f.bind)
  | .update => (b.queries.updateFields.map fun f => (f.column, f.bind)) ++
      [(b.key.param, "entity_id")]
  | .delete => [(b.key.param, "entity_id")]

private theorem placed_python (fields : List Field) :
    placed .python fields = fields.map fun f => ⟨f.column, ":" ++ f.column⟩ := by
  refine List.ext_getElem? fun i => ?_
  rw [placed_getElem?, List.getElem?_map]
  rfl

section Mentions

variable {table : String} {fields : List Field} {key : Key}

private theorem mentions_match {lead : String} (hlead : ':' ∉ lead.toList) {column param : String}
    (hcolumn : IsName column.toList) (hparam : IsName param.toList) :
    mentions (lead ++ Match.text ⟨column, ":" ++ param⟩).toList = [param] := by
  have hfree : ':' ∉ (lead ++ (column ++ " = ")).toList := by
    simp only [String.toList_append, List.mem_append, not_or]
    exact ⟨hlead, hcolumn.not_mem (by decide), by decide⟩
  have htext : lead ++ Match.text ⟨column, ":" ++ param⟩ =
      lead ++ (column ++ " = ") ++ (":" ++ param) := by
    simp only [Match.text, String.append_assoc]
  have hname : mentions ((":" ++ param).toList ++ []) = [param] := mentions_name hparam rfl
  rw [List.append_nil] at hname
  rw [htext, String.toList_append, mentions_append_of_notMem hfree, hname]

private theorem colon_notMem_columns (hfields : ∀ f ∈ fields, IsName f.column.toList) :
    ':' ∉ (", ".intercalate (fields.map (·.column))).toList :=
  notMem_intercalate (by decide)
    (List.forall_mem_map.mpr fun f hf => (hfields f hf).not_mem (by decide))

private theorem mentions_insert (htable : IsName table.toList)
    (hfields : ∀ f ∈ fields, IsName f.column.toList) (hcolumn : IsName key.column.toList) :
    mentions ((queriesOf .python table fields key).statement .create).text.toList =
      fields.map (·.column) := by
  have hlead : ':' ∉ ("INSERT INTO " ++ table ++ " (" ++
      ", ".intercalate (fields.map (·.column)) ++ ") VALUES (").toList := by
    simp only [String.toList_append, List.mem_append, not_or]
    exact ⟨⟨⟨⟨by decide, htable.not_mem (by decide)⟩, by decide⟩, colon_notMem_columns hfields⟩,
      by decide⟩
  have htrail : ':' ∉ (") RETURNING " ++ key.column).toList := by
    simp only [String.toList_append, List.mem_append, not_or]
    exact ⟨by decide, hcolumn.not_mem (by decide)⟩
  have hend : (") RETURNING " ++ key.column).toList.takeWhile isWord = [] := by
    rw [String.toList_append, String.toList_ofList]
    rfl
  have hvalues := mentions_intercalate (fun f => ":" ++ f.column) Field.column
    (fun f _ => ⟨"", by decide, String.empty_append.symm⟩) hfields hend
  change mentions (Statement.insert table (placed .python fields) key.column).text.toList = _
  rw [Statement.text_insert, placed_columns, placed_python, List.map_map, String.append_assoc,
    String.append_assoc, String.toList_append, mentions_append_of_notMem hlead,
    String.toList_append]
  exact hvalues.trans (by rw [mentions_of_notMem htrail, List.append_nil])

private theorem mentions_update (htable : IsName table.toList)
    (hfields : ∀ f ∈ fields, IsName f.column.toList) (hcolumn : IsName key.column.toList)
    (hparam : IsName key.param.toList) :
    mentions ((queriesOf .python table fields key).statement .update).text.toList =
      (updatable fields).map (·.column) ++ [key.param] := by
  have hlead : ':' ∉ ("UPDATE " ++ table ++ " SET ").toList := by
    simp only [String.toList_append, List.mem_append, not_or]
    exact ⟨⟨by decide, htable.not_mem (by decide)⟩, by decide⟩
  have hwhere : ':' ∉ " WHERE ".toList := by decide
  have hend : (" WHERE " ++ Match.text ⟨key.column, ":" ++ key.param⟩).toList.takeWhile isWord =
      [] := by
    rw [String.toList_append, String.toList_ofList]
    rfl
  have hupdated (f : Field) (hf : f ∈ updatable fields) : IsName f.column.toList :=
    hfields f (updatable_subset fields hf)
  have hset (f : Field) (hf : f ∈ updatable fields) : ∃ lead, ':' ∉ lead.toList ∧
      Match.text ⟨f.column, ":" ++ f.column⟩ = lead ++ (":" ++ f.column) := by
    refine ⟨f.column ++ " = ", ?_, rfl⟩
    simp only [String.toList_append, List.mem_append, not_or]
    exact ⟨(hupdated f hf).not_mem (by decide), by decide⟩
  have hvalues := mentions_intercalate _ Field.column hset hupdated hend
  change mentions (Statement.update table (placed .python (updatable fields))
    ⟨key.column, ":" ++ key.param⟩).text.toList = _
  rw [Statement.text_update, placed_python, List.map_map, String.append_assoc,
    String.append_assoc, String.toList_append, mentions_append_of_notMem hlead,
    String.toList_append]
  exact hvalues.trans (by rw [mentions_match hwhere hcolumn hparam])

/-- What the statements for some fields mention: the columns that are set, and the key's parameter
    where rows are looked for. -/
theorem mentions_statement (htable : IsName table.toList)
    (hfields : ∀ f ∈ fields, IsName f.column.toList) (hcolumn : IsName key.column.toList)
    (hparam : IsName key.param.toList) (op : Operation) :
    mentions ((queriesOf .python table fields key).statement op).text.toList =
      match op with
      | .findAll => []
      | .create => fields.map (·.column)
      | .update => (updatable fields).map (·.column) ++ [key.param]
      | .findById | .delete => [key.param] := by
  have hcolons : ':' ∉ table.toList := htable.not_mem (by decide)
  have hselect : ':' ∉ ("SELECT " ++ ", ".intercalate (fields.map (·.column)) ++ " FROM " ++
      table).toList := by
    simp only [String.toList_append, List.mem_append, not_or]
    exact ⟨⟨⟨by decide, colon_notMem_columns hfields⟩, by decide⟩, hcolons⟩
  cases op with
  | findById =>
    have hwhere : ':' ∉ " WHERE ".toList := by decide
    change mentions (Statement.select (fields.map (·.column)) table
      (some ⟨key.column, ":" ++ key.param⟩)).text.toList = _
    rw [Statement.text_select_some, String.toList_append, mentions_append_of_notMem hselect,
      mentions_match hwhere hcolumn hparam]
  | findAll =>
    change mentions (Statement.select (fields.map (·.column)) table none).text.toList = _
    rw [Statement.text_select_none, mentions_of_notMem hselect]
  | create => exact mentions_insert htable hfields hcolumn
  | update => exact mentions_update htable hfields hcolumn hparam
  | delete =>
    have hlead : ':' ∉ ("DELETE FROM " ++ table ++ " WHERE ").toList := by
      simp only [String.toList_append, List.mem_append, not_or]
      exact ⟨⟨by decide, hcolons⟩, by decide⟩
    change mentions (Statement.delete table ⟨key.column, ":" ++ key.param⟩).text.toList = _
    rw [Statement.text_delete, mentions_match hlead hcolumn hparam]

end Mentions

section Named

variable {b : Blueprint} (hqueries : b.queries = queriesOf .python b.table b.fields b.key)

include hqueries

/-- The statement of an operation mentions the names that get a value. -/
theorem mentions_eq_named (htable : IsName b.table.toList)
    (hfields : ∀ f ∈ b.fields, IsName f.column.toList) (hcolumn : IsName b.key.column.toList)
    (hparam : IsName b.key.param.toList) (op : Operation) :
    mentions (b.queries.statement op).text.toList = (b.named op).map (·.1) := by
  rw [hqueries, mentions_statement htable hfields hcolumn hparam op]
  cases op with
  | findById | findAll | delete => rfl
  | create =>
    rw [named, hqueries, List.map_map]
    rfl
  | update =>
    rw [named, hqueries, List.map_append, List.map_map]
    rfl

/-- What is passed by name are fields, and the identifier where one was asked for. -/
theorem exists_named_eq (op : Operation) : ∃ (bound : List Field)
    (sought : List (String × String)), bound.Sublist b.fields ∧
    (sought = [] ∨ sought = [(b.key.param, "entity_id")]) ∧
    b.named op = bound.map (fun f => (f.column, f.bind)) ++ sought := by
  cases op with
  | findById => exact ⟨[], _, List.nil_sublist _, Or.inr rfl, rfl⟩
  | findAll => exact ⟨[], [], List.nil_sublist _, Or.inl rfl, rfl⟩
  | create =>
    refine ⟨b.fields, [], List.Sublist.refl _, Or.inl rfl, ?_⟩
    rw [named, hqueries, List.append_nil]
    rfl
  | update =>
    refine ⟨updatable b.fields, _, updatable_sublist _, Or.inr rfl, ?_⟩
    rw [named, hqueries]
    rfl
  | delete => exact ⟨[], _, List.nil_sublist _, Or.inr rfl, rfl⟩

/-- What is passed by name is the value of a field under its column, or the identifier. -/
theorem mem_named {op : Operation} {entry : String × String} (h : entry ∈ b.named op) :
    (∃ f ∈ b.fields, entry = (f.column, f.bind)) ∨ entry = (b.key.param, "entity_id") := by
  obtain ⟨bound, sought, hbound, hsought, hnamed⟩ := exists_named_eq hqueries op
  rw [hnamed, List.mem_append] at h
  rcases h with hcolumn | hparam
  · obtain ⟨f, hf, rfl⟩ := List.mem_map.mp hcolumn
    exact Or.inl ⟨f, hbound.subset hf, rfl⟩
  · rcases hsought with rfl | rfl
    · cases hparam
    · exact Or.inr (List.mem_singleton.mp hparam)

/-- No name gets two values where the columns differ from each other and from the key's
    parameter. -/
theorem nodup_named (hcolumns : (b.fields.map (·.column)).Nodup)
    (hfresh : ∀ f ∈ b.fields, f.column ≠ b.key.param) (op : Operation) :
    ((b.named op).map (·.1)).Nodup := by
  obtain ⟨bound, sought, hbound, hsought, hnamed⟩ := exists_named_eq hqueries op
  have hkeys : (b.named op).map (·.1) = bound.map (·.column) ++ sought.map (·.1) := by
    rw [hnamed, List.map_append, List.map_map]
    rfl
  have hdistinct := (hbound.map (·.column)).nodup hcolumns
  rw [hkeys]
  rcases hsought with rfl | rfl
  · simpa using hdistinct
  · rw [List.map_singleton, List.nodup_append]
    refine ⟨hdistinct, List.nodup_singleton _, ?_⟩
    rintro _ hcolumn _ hparam rfl
    obtain ⟨f, hf, hname⟩ := List.mem_map.mp hcolumn
    exact hfresh f (hbound.subset hf) (hname.trans (List.mem_singleton.mp hparam))

/-- A column that a statement sets is set to the value under its own name. -/
theorem named_of_assigned (op : Operation) :
    ∀ m ∈ (b.queries.statement op).assigned, m.placeholder = ":" ++ m.column ∧
      ∃ value, (m.column, value) ∈ b.named op := by
  intro m hm
  rw [hqueries] at hm
  cases op with
  | findById | findAll | delete => cases hm
  | create =>
    change m ∈ placed .python b.fields at hm
    rw [placed_python] at hm
    obtain ⟨f, hf, rfl⟩ := List.mem_map.mp hm
    refine ⟨rfl, f.bind, ?_⟩
    rw [named, hqueries]
    exact List.mem_map.mpr ⟨f, hf, rfl⟩
  | update =>
    change m ∈ placed .python (updatable b.fields) at hm
    rw [placed_python] at hm
    obtain ⟨f, hf, rfl⟩ := List.mem_map.mp hm
    refine ⟨rfl, f.bind, ?_⟩
    rw [named, hqueries]
    exact List.mem_append_left _ (List.mem_map.mpr ⟨f, hf, rfl⟩)

/-- The rows that a statement is about are found by the identifier that was asked for. -/
theorem named_of_filter (op : Operation) :
    ∀ m ∈ (b.queries.statement op).filter?, m.column = b.key.column ∧
      m.placeholder = ":" ++ b.key.param ∧ (b.key.param, "entity_id") ∈ b.named op := by
  intro m hm
  rw [hqueries] at hm
  cases op with
  | findAll | create => cases hm
  | findById | delete =>
    obtain rfl := Option.some.inj hm
    exact ⟨rfl, rfl, List.mem_singleton_self _⟩
  | update =>
    obtain rfl := Option.some.inj hm
    exact ⟨rfl, rfl, List.mem_append_right _ (List.mem_singleton_self _)⟩

end Named

/-- Every name that the statement of an operation mentions gets one value, and no other name gets
    one: a column's name that of its own field, and the key's parameter the identifier that was
    asked for. -/
structure BoundByName (b : Blueprint) (op : Operation) : Prop where
  distinct : ((b.named op).map (·.1)).Nodup
  complete : mentions (b.queries.statement op).text.toList = (b.named op).map (·.1)
  fresh : ∀ f ∈ b.fields, f.column ≠ b.key.param
  known : ∀ name ∈ (b.named op).map (·.1), name = b.key.param ∨ ∃ f ∈ b.fields, f.column = name
  column : ∀ f ∈ b.fields, ∀ value, (f.column, value) ∈ b.named op → value = "entity." ++ f.name
  key : ∀ value, (b.key.param, value) ∈ b.named op → value = "entity_id"
  /-- A column is set to the value under its own name. -/
  assigned : ∀ m ∈ (b.queries.statement op).assigned, m.placeholder = ":" ++ m.column ∧
    ∃ value, (m.column, value) ∈ b.named op
  /-- Rows are looked for by the value under the key's parameter. -/
  filtered : ∀ m ∈ (b.queries.statement op).filter?, m.column = b.key.column ∧
    m.placeholder = ":" ++ b.key.param ∧ (b.key.param, "entity_id") ∈ b.named op

/-- For a table whose columns are distinct names, every statement is bound by name. -/
theorem boundByName_ofTable (service : String) {t : Table} (htable : IsName t.name.toList)
    (hdistinct : (t.columns.map (·.name)).Nodup) (hnames : ∀ c ∈ t.columns, IsName c.name.toList)
    (op : Operation) : BoundByName (ofTable .python service t) op := by
  have hqueries : (ofTable .python service t).queries = queriesOf .python t.name
    (ofTable .python service t).fields (ofTable .python service t).key := rfl
  have hbind : ∀ f ∈ (ofTable .python service t).fields, f.bind = "entity." ++ f.name :=
    List.forall_mem_map.mpr fun _ _ => rfl
  have hkeyed := t.forall_keyedColumns (p := fun name => IsName name.toList) (by decide) hnames
  have hcolumns : ((ofTable .python service t).fields.map (·.column)).Nodup := by
    rw [fields_columns]
    exact Table.nodup_keyedColumns hdistinct
  have hfresh : ∀ f ∈ (ofTable .python service t).fields,
      f.column ≠ (ofTable .python service t).key.param := by
    intro f hf hsame
    have hnone := keyParam_notMem ((ofTable .python service t).fields.map (·.column))
    exact hnone (List.mem_map.mpr ⟨f, hf, hsame⟩)
  refine ⟨nodup_named hqueries hcolumns hfresh op, ?_, hfresh, ?_, ?_, ?_,
    named_of_assigned hqueries op, named_of_filter hqueries op⟩
  · exact mentions_eq_named hqueries htable (List.forall_mem_map.mpr hkeyed)
      (hkeyed _ t.key_mem_keyedColumns) (isName_keyParam _) op
  · intro name hname
    obtain ⟨entry, hentry, rfl⟩ := List.mem_map.mp hname
    rcases mem_named hqueries hentry with ⟨f, hf, rfl⟩ | rfl
    · exact Or.inr ⟨f, hf, rfl⟩
    · exact Or.inl rfl
  · intro f hf value hmem
    rcases mem_named hqueries hmem with ⟨g, hg, hsame⟩ | hsame
    · obtain ⟨hname, rfl⟩ := Prod.mk.inj hsame
      rw [hbind g hg, List.inj_on_of_nodup_map hcolumns hf hg hname]
    · exact absurd (Prod.mk.inj hsame).1 (hfresh f hf)
  · intro value hmem
    rcases mem_named hqueries hmem with ⟨g, hg, hsame⟩ | hsame
    · exact absurd (Prod.mk.inj hsame).1.symm (hfresh g hg)
    · exact (Prod.mk.inj hsame).2

end Blueprint

end AccessLayer
