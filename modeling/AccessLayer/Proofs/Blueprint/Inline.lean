import AccessLayer.Proofs.Blueprint.Queries
import AccessLayer.Proofs.Schema.Origin
import AccessLayer.Proofs.Text.Case
import AccessLayer.Source.Preamble

namespace AccessLayer

open Text

/-- The names of a table and its columns hold no blank. -/
structure Table.Legible (t : Table) : Prop where
  name : IsSolid t.name.toList
  columns : ∀ c ∈ t.columns, IsSolid c.name.toList

/-- Names that were read from a text hold no blank, so the tables of a schema can be written line by
    line. -/
theorem legible_of_mem_readSchema {text : String} {t : Table} (h : t ∈ readSchema text) :
    t.Legible := by
  have hformed := Table.wellFormed_of_mem_readSchema h
  exact ⟨hformed.name.isSolid, fun c hc => (hformed.columns c hc).1.solid⟩

/-- The key brings no blank with it. -/
theorem Table.Legible.keyedColumns {t : Table} (h : t.Legible) :
    ∀ c ∈ t.keyedColumns, IsSolid c.name.toList :=
  t.forall_keyedColumns (p := fun name => IsSolid name.toList) (by decide) h.columns

/-- The type of a table holds no blank where its name holds none. -/
theorem Name.isSolid_typeName {name : String} (h : IsSolid name.toList) :
    IsSolid (Name.typeName name).toList := by
  rw [Name.typeName, String.toList_ofList]
  intro c hc
  obtain ⟨p, hp, hmem⟩ := List.mem_flatMap.mp hc
  have hpiece : IsSolid p := fun d hd => h d (mem_of_mem_pieces hp hd).1
  exact hpiece.capitalize c hmem

private theorem Operation.isInline_summary (op : Operation) {table : String} (h : IsInline table) :
    IsInline (op.summary table) := by
  unfold summary
  cases op <;>
    simp (disch := (refine notMem_ofList ?_; decide)) [isInline_of_notMem, h]

namespace Language

variable (l : Language)

private theorem isInline_operationName (op : Operation) : IsInline (l.operationName op) := by
  unfold operationName Operation.name
  cases l <;> cases op <;>
    simp (disch := (refine notMem_ofList ?_; decide)) only [isInline_of_notMem]

private theorem isSolid_fieldName {column : String} (h : IsSolid column.toList) :
    IsSolid (l.fieldName column).toList := by
  have hsuffixed : IsSolid (column ++ "_").toList := by
    rw [String.toList_append]
    exact h.append (by decide)
  unfold fieldName
  split
  · split
    · exact hsuffixed
    · split
      · rw [String.toList_append]
        exact IsSolid.append (by decide) h
      · exact h
  · exact Name.isSolid_typeName h
  · split
    · exact hsuffixed
    · exact h

/-- Types hold no line break, since those of the languages hold none. -/
theorem isInline_columnType (c : Column) : IsInline (l.columnType c) := by
  have hnative : IsInline (l.nativeType c.category) := by
    unfold nativeType
    cases l <;> cases c.category <;>
      simp (disch := (refine notMem_ofList ?_; decide)) only [isInline_of_notMem]
  unfold columnType
  split
  · unfold optionalOf
    cases l <;>
      simp (disch := (refine notMem_ofList ?_; decide)) [isInline_of_notMem, hnative]
  · exact hnative

private theorem isInline_read (category : Category) (optional : Bool) {column : String}
    (h : IsInline column) : IsInline (l.read category optional column) := by
  have hvalue : IsInline (cppValue category column) := by
    unfold cppValue
    cases category <;>
      simp (disch := (refine notMem_ofList ?_; decide)) [isInline_of_notMem, h]
  unfold read
  cases l <;> cases optional <;>
    simp (disch := (refine notMem_ofList ?_; decide)) [isInline_of_notMem, h, hvalue]

private theorem isInline_bind (category : Category) (optional : Bool) {field : String}
    (h : IsInline field) : IsInline (l.bind category optional field) := by
  unfold bind
  cases l <;> cases optional <;> cases category <;>
    simp (disch := (refine notMem_ofList ?_; decide)) [cppConverted?, isInline_append,
      isInline_of_notMem, h]

private theorem starts_ofList {lead cs : List Char} (h : lead <+: cs) (s : String) :
    lead <+: (String.ofList cs ++ s).toList := by
  rw [String.toList_append, String.toList_ofList]
  exact h.trans (List.prefix_append cs s.toList)

/-- A value that is passed is a field of the entity, a reference to one or what one is converted
    to. -/
theorem bind_start (category : Category) (optional : Bool) (field : String) :
    ∃ lead ∈ [['e'], ['&'], ['d']], lead <+: (l.bind category optional field).toList := by
  unfold bind
  cases l <;> cases optional <;> cases category <;>
    simp only [cppConverted?, Option.getD_some, Option.getD_none, String.append_assoc] <;>
    first
    | exact ⟨['e'], by decide, starts_ofList (by decide) _⟩
    | exact ⟨['&'], by decide, starts_ofList (by decide) _⟩
    | exact ⟨['d'], by decide, starts_ofList (by decide) _⟩

private theorem isInline_sample (category : Category) (optional : Bool) :
    IsInline (l.sample category optional) := by
  unfold sample sampleValue
  cases l <;> cases optional <;> cases category <;>
    simp (disch := (refine notMem_ofList ?_; decide)) [isInline_of_notMem]

private theorem isInline_placeholder (index : Nat) {name : String} (h : IsInline name) :
    IsInline (l.placeholder index name) := by
  unfold placeholder
  cases l <;>
    simp (disch := (refine notMem_ofList ?_; decide)) [isInline_of_notMem, isInline_repr, h]

end Language

/-- A condition stands on one line. -/
structure Match.IsInline (m : Match) : Prop where
  column : AccessLayer.IsInline m.column
  placeholder : AccessLayer.IsInline m.placeholder

/-- A condition whose column and placeholder hold no line break stands on one line. -/
theorem Match.IsInline.text {m : Match} (h : m.IsInline) : AccessLayer.IsInline m.text := by
  unfold Match.text
  simp (disch := (refine notMem_ofList ?_; decide)) [isInline_of_notMem, h.column, h.placeholder]

namespace Statement

variable {table : String}

private theorem isInline_select {columns : List String} {filter : Option Match}
    (hcolumns : ∀ c ∈ columns, IsInline c) (htable : IsInline table)
    (hfilter : ∀ m ∈ filter, m.IsInline) : IsInline (select columns table filter).text := by
  have hlist := isInline_intercalate (by decide : IsInline ", ") hcolumns
  cases filter with
  | none =>
    rw [text_select_none]
    simp (disch := (refine notMem_ofList ?_; decide)) [isInline_of_notMem, hlist, htable]
  | some m =>
    rw [text_select_some]
    simp (disch := (refine notMem_ofList ?_; decide)) [isInline_of_notMem, hlist, htable,
      (hfilter m rfl).text]

private theorem isInline_insert {values : List Match} {returning : String} (htable : IsInline table)
    (hvalues : ∀ m ∈ values, m.IsInline) (hreturning : IsInline returning) :
    IsInline (insert table values returning).text := by
  have hcolumns := isInline_intercalate (by decide : IsInline ", ")
    (List.forall_mem_map.mpr fun m hm => (hvalues m hm).column)
  have hplaceholders := isInline_intercalate (by decide : IsInline ", ")
    (List.forall_mem_map.mpr fun m hm => (hvalues m hm).placeholder)
  rw [text_insert]
  simp (disch := (refine notMem_ofList ?_; decide)) [isInline_of_notMem, hcolumns, hplaceholders,
    htable, hreturning]

private theorem isInline_update {assignments : List Match} {filter : Match}
    (htable : IsInline table)
    (hassignments : ∀ m ∈ assignments, m.IsInline) (hfilter : filter.IsInline) :
    IsInline (update table assignments filter).text := by
  have hset := isInline_intercalate (by decide : IsInline ", ")
    (List.forall_mem_map.mpr fun m hm => (hassignments m hm).text)
  rw [text_update]
  simp (disch := (refine notMem_ofList ?_; decide)) [isInline_of_notMem, hset, htable, hfilter.text]

private theorem isInline_delete {filter : Match} (htable : IsInline table)
    (hfilter : filter.IsInline) :
    IsInline (delete table filter).text := by
  rw [text_delete]
  simp (disch := (refine notMem_ofList ?_; decide)) [isInline_of_notMem, htable, hfilter.text]

end Statement

namespace Blueprint

variable {l : Language}

private theorem isInline_placed {fields : List Field} (h : ∀ f ∈ fields, IsInline f.column) :
    ∀ m ∈ placed l fields, m.IsInline := by
  intro m hm
  obtain ⟨i, hi⟩ := List.mem_iff_getElem?.mp hm
  rw [placed_getElem?, Option.map_eq_some_iff] at hi
  obtain ⟨f, hf, rfl⟩ := hi
  have hcolumn := h f (List.mem_of_getElem? hf)
  exact ⟨hcolumn, l.isInline_placeholder _ hcolumn⟩

/-- Every statement stands on one line where the names in it do. -/
theorem isInline_statement {table : String} {fields : List Field} {key : Key}
    (htable : IsInline table) (hfields : ∀ f ∈ fields, IsInline f.column)
    (hcolumn : IsInline key.column) (hparam : IsInline key.param) (op : Operation) :
    IsInline ((queriesOf l table fields key).statement op).text := by
  have hcolumns := List.forall_mem_map.mpr hfields
  have hkey (i : Nat) : Match.IsInline ⟨key.column, l.placeholder i key.param⟩ :=
    ⟨hcolumn, l.isInline_placeholder i hparam⟩
  cases op with
  | findById =>
    refine Statement.isInline_select hcolumns htable fun m hm => ?_
    rw [← Option.some.inj hm]
    exact hkey 1
  | findAll => exact Statement.isInline_select hcolumns htable fun m hm => by cases hm
  | create => exact Statement.isInline_insert htable (isInline_placed hfields) hcolumn
  | update =>
    exact Statement.isInline_update htable
      (isInline_placed fun f hf => hfields f (updatable_subset fields hf)) (hkey _)
  | delete => exact Statement.isInline_delete htable (hkey 1)

/-- Nothing that is inserted into the lines of a file breaks one, and names hold no blank. -/
structure Unbroken (b : Blueprint) : Prop where
  table : IsInline b.table
  typeName : IsSolid b.typeName.toList
  keyType : IsInline b.key.type
  keyColumn : IsInline b.key.column
  keyName : IsInline b.key.name
  keyRead : IsInline b.key.read
  keyParam : IsInline b.key.param
  fieldName : ∀ f ∈ b.fields, IsSolid f.name.toList
  fieldColumn : ∀ f ∈ b.fields, IsInline f.column
  fieldRead : ∀ f ∈ b.fields, IsInline f.read
  fieldBind : ∀ f ∈ b.fields, IsInline f.bind
  bindStart : ∀ f ∈ b.fields, ∃ lead ∈ [['e'], ['&'], ['d']], lead <+: f.bind.toList
  fieldSample : ∀ f ∈ b.fields, IsInline f.sample
  inserted : b.queries.insertFields ⊆ b.fields
  updated : b.queries.updateFields ⊆ b.fields
  statement : ∀ op, IsInline (b.queries.statement op).text
  declared : ∀ d ∈ b.operations,
    d.signature = b.signature d.op ∧ IsInline d.name ∧ IsInline d.doc

/-- The statements of a blueprint in which nothing is broken stand on one line each. -/
theorem Unbroken.statements {b : Blueprint} (h : b.Unbroken) :
    IsInline b.queries.findById.text ∧ IsInline b.queries.findAll.text ∧
      IsInline b.queries.insert.text ∧ IsInline b.queries.update.text ∧
      IsInline b.queries.delete.text :=
  ⟨h.statement .findById, h.statement .findAll, h.statement .create, h.statement .update,
    h.statement .delete⟩

private theorem isInline_readOf {fields : List Field} (h : ∀ f ∈ fields, IsInline f.read) :
    IsInline (((fields.find? (·.isKey)).map (·.read)).getD "") := by
  cases hfind : fields.find? (·.isKey) with
  | none => decide
  | some f => exact h f (List.mem_of_find?_eq_some hfind)

private theorem isInline_paramName (n : Nat) : IsInline (paramName n) := by
  simp only [paramName, isInline_append]
  exact ⟨by decide, by simp [IsInline, List.mem_replicate]⟩

/-- What is inserted into generated lines breaks none of them: neither the names of a legible table
    nor anything that is made from them holds a line break. -/
theorem unbroken_ofTable (l : Language) (service : String) {t : Table} (h : t.Legible) :
    (ofTable l service t).Unbroken := by
  have hcolumns := h.keyedColumns
  have hkey : IsSolid t.key.name.toList := hcolumns _ t.key_mem_keyedColumns
  have hinline : ∀ c ∈ t.keyedColumns, IsInline c.name :=
    fun c hc => isInline_of_isSolid (hcolumns c hc)
  have hfieldColumn : ∀ f ∈ t.keyedColumns.map (field l t.key.name), IsInline f.column :=
    List.forall_mem_map.mpr hinline
  have hread : ∀ f ∈ t.keyedColumns.map (field l t.key.name), IsInline f.read :=
    List.forall_mem_map.mpr fun c hc => l.isInline_read _ _ (hinline c hc)
  have hparam : IsInline (keyParam ((t.keyedColumns.map (field l t.key.name)).map (·.column))) :=
    isInline_paramName _
  exact {
    table := isInline_of_isSolid h.name
    typeName := Name.isSolid_typeName h.name
    keyType := l.isInline_columnType t.key
    keyColumn := isInline_of_isSolid hkey
    keyName := isInline_of_isSolid (l.isSolid_fieldName hkey)
    keyRead := isInline_readOf hread
    keyParam := hparam
    fieldName := List.forall_mem_map.mpr fun c hc => l.isSolid_fieldName (hcolumns c hc)
    fieldColumn := hfieldColumn
    fieldRead := hread
    fieldBind := List.forall_mem_map.mpr fun c hc =>
      l.isInline_bind _ _ (isInline_of_isSolid (l.isSolid_fieldName (hcolumns c hc)))
    bindStart := List.forall_mem_map.mpr fun c _ => l.bind_start _ _ _
    fieldSample := List.forall_mem_map.mpr fun c _ => l.isInline_sample _ _
    inserted := fun f hf => hf
    updated := updatable_subset _
    statement := isInline_statement (isInline_of_isSolid h.name) hfieldColumn
      (isInline_of_isSolid hkey) hparam
    declared := by
      refine List.forall_mem_map.mpr fun op _ => ⟨rfl, ?_, ?_⟩
      · exact l.isInline_operationName op
      · exact op.isInline_summary (isInline_of_isSolid h.name) }

end Blueprint

end AccessLayer
