import AccessLayer.Proofs.Blueprint.Key
import Mathlib.Data.List.Nodup

namespace AccessLayer

namespace Statement

/-- The columns that a statement gives values to, with the placeholders of the values. -/
def assigned : Statement → List Match
  | insert _ values _ => values
  | update _ assignments _ => assignments
  | _ => []

/-- The condition on the rows that a statement is about. -/
def filter? : Statement → Option Match
  | select _ _ filter => filter
  | insert _ _ _ => none
  | update _ _ filter => some filter
  | delete _ filter => some filter

section Text

variable (columns : List String) (table : String) (values : List Match) (m : Match)

/-- How rows are looked up that meet a condition. -/
theorem text_select_some : (select columns table (some m)).text =
    "SELECT " ++ ", ".intercalate columns ++ " FROM " ++ table ++ (" WHERE " ++ m.text) := rfl

/-- How all rows are looked up. Nothing stands behind the table. -/
theorem text_select_none : (select columns table none).text =
    "SELECT " ++ ", ".intercalate columns ++ " FROM " ++ table := String.append_empty

/-- How a row is added: the placeholders are listed in the order of the columns. -/
theorem text_insert (returning : String) : (insert table values returning).text =
    "INSERT INTO " ++ table ++ " (" ++ ", ".intercalate (values.map (·.column)) ++ ") VALUES (" ++
      ", ".intercalate (values.map (·.placeholder)) ++ ") RETURNING " ++ returning := rfl

/-- How a row is changed: each column has its placeholder beside it. -/
theorem text_update : (update table values m).text =
    "UPDATE " ++ table ++ " SET " ++ ", ".intercalate (values.map (·.text)) ++ " WHERE " ++
      m.text := rfl

/-- How a row is removed. -/
theorem text_delete : (delete table m).text = "DELETE FROM " ++ table ++ " WHERE " ++ m.text := rfl

end Text

end Statement

/-- The statement behind an operation. -/
def Queries.statement (q : Queries) : Operation → Statement
  | .findById => q.findById
  | .findAll => q.findAll
  | .create => q.insert
  | .update => q.update
  | .delete => q.delete

/-- The placeholders of as many values as are passed, counted from one. -/
def numbered (n : Nat) : List String := (List.range n).map fun i => "$" ++ Nat.repr (i + 1)

namespace Language

end Language

namespace Blueprint

variable {l : Language}

/-- Fields are placed one by one, with placeholders from the first on. -/
theorem placed_getElem? (fields : List Field) (i : Nat) :
    (placed l fields)[i]? =
      fields[i]?.map fun f => ⟨f.column, l.placeholder (i + 1) f.column⟩ := by
  rw [placed, List.getElem?_map, List.getElem?_zipIdx, Option.map_map, Nat.zero_add]
  rfl

/-- The columns of placed fields are those of the fields, in their order. -/
theorem placed_columns (fields : List Field) :
    (placed l fields).map (·.column) = fields.map (·.column) := by
  refine List.ext_getElem? fun i => ?_
  rw [List.getElem?_map, placed_getElem?, Option.map_map, List.getElem?_map]
  rfl

/-- An update sets the fields in their order. -/
theorem updatable_sublist (fields : List Field) : (updatable fields).Sublist fields := by
  unfold updatable
  split
  · exact List.filter_sublist
  · exact List.filter_sublist

/-- An update sets nothing but fields. -/
theorem updatable_subset (fields : List Field) : updatable fields ⊆ fields :=
  (updatable_sublist fields).subset

/-- What the statements of a blueprint say, when placeholders are numbered. -/
structure Numbered (b : Blueprint) (t : Table) : Prop where
  /-- The fields are the columns in order, after the assumed key if there is one. -/
  columns : b.fields.map (·.column) =
    (if t.keyIsAssumed then ["id"] else []) ++ t.columns.map (·.name)
  isKey : ∀ f ∈ b.fields, f.isKey = true ↔ f.column = b.key.column
  insertFields : b.queries.insertFields = b.fields
  insert : ∃ values, b.queries.insert = .insert t.name values b.key.column ∧
    values.map (·.column) = b.fields.map (·.column) ∧
    values.map (·.placeholder) = numbered b.fields.length
  /-- An update sets the columns but the key in order, or the key where it is alone. -/
  updateFields : ∃ k, b.fields.filter (·.isKey) = [k] ∧ k.column = b.key.column ∧
    b.queries.updateFields = if b.plainFields = [] then [k] else b.plainFields
  update : ∃ assignments, assignments ≠ [] ∧
    b.queries.update = .update t.name assignments
      ⟨b.key.column, "$" ++ Nat.repr (assignments.length + 1)⟩ ∧
    assignments.map (·.column) = b.queries.updateFields.map (·.column) ∧
    assignments.map (·.placeholder) = numbered b.queries.updateFields.length
  findById : b.queries.findById =
    .select (b.fields.map (·.column)) t.name (some ⟨b.key.column, "$1"⟩)
  findAll : b.queries.findAll = .select (b.fields.map (·.column)) t.name none
  delete : b.queries.delete = .delete t.name ⟨b.key.column, "$1"⟩

/-- The columns that an update sets: all but the key's in order, or the key's where it is alone. -/
def setColumns (b : Blueprint) : List String :=
  if b.plainFields = [] then [b.key.column] else b.plainFields.map (·.column)

/-- The texts of the statements, letter for letter. Columns that are listed are those of the fields
    in order, the placeholders beside them are numbered from one, and rows are looked for by the
    key's column and the number that comes next. -/
structure Printed (b : Blueprint) (t : Table) : Prop where
  findById : (b.queries.statement .findById).text =
    "SELECT " ++ ", ".intercalate (b.fields.map (·.column)) ++ " FROM " ++ t.name ++
      " WHERE " ++ b.key.column ++ " = $1"
  findAll : (b.queries.statement .findAll).text =
    "SELECT " ++ ", ".intercalate (b.fields.map (·.column)) ++ " FROM " ++ t.name
  create : (b.queries.statement .create).text =
    "INSERT INTO " ++ t.name ++ " (" ++ ", ".intercalate (b.fields.map (·.column)) ++
      ") VALUES (" ++ ", ".intercalate (numbered b.fields.length) ++
      ") RETURNING " ++ b.key.column
  update : b.setColumns ≠ [] ∧ (b.queries.statement .update).text =
    "UPDATE " ++ t.name ++ " SET " ++
      ", ".intercalate (List.zipWith (fun column placeholder => column ++ " = " ++ placeholder)
        b.setColumns (numbered b.setColumns.length)) ++
      " WHERE " ++ b.key.column ++ " = $" ++ Nat.repr (b.setColumns.length + 1)
  delete : (b.queries.statement .delete).text =
    "DELETE FROM " ++ t.name ++ " WHERE " ++ b.key.column ++ " = $1"

/-- An update always sets a column. -/
theorem setColumns_ne_nil (b : Blueprint) : b.setColumns ≠ [] := by
  unfold setColumns
  split
  · exact List.cons_ne_nil _ _
  · rename_i hplain
    simpa using hplain

/-- The fields that an update passes are those of the columns that it sets. -/
theorem Numbered.setColumns_eq {b : Blueprint} {t : Table} (h : Numbered b t) :
    b.queries.updateFields.map (·.column) = b.setColumns := by
  obtain ⟨k, _, hcolumn, hfields⟩ := h.updateFields
  rw [hfields, setColumns]
  split
  · rw [List.map_singleton, hcolumn]
  · rfl

private theorem map_text_eq_zipWith (ms : List Match) :
    ms.map (·.text) = List.zipWith (fun column placeholder => column ++ " = " ++ placeholder)
      (ms.map (·.column)) (ms.map (·.placeholder)) := by
  rw [List.zipWith_map, List.zipWith_self]
  rfl

private theorem text_first (column : String) : Match.text ⟨column, "$1"⟩ = column ++ " = $1" := by
  simp [← String.toList_inj, Match.text]

private theorem text_numbered (column number : String) :
    Match.text ⟨column, "$" ++ number⟩ = column ++ " = $" ++ number := by
  simp [← String.toList_inj, Match.text]

/-- Statements with numbered placeholders are printed with them, each value's placeholder in the
    place of its column. -/
theorem Numbered.printed {b : Blueprint} {t : Table} (h : Numbered b t) : Printed b t where
  findById := by
    change b.queries.findById.text = _
    rw [h.findById, Statement.text_select_some, text_first]
    simp only [String.append_assoc]
  findAll := by
    change b.queries.findAll.text = _
    rw [h.findAll, Statement.text_select_none]
  create := by
    change b.queries.insert.text = _
    obtain ⟨values, hinsert, hcolumns, hplaceholders⟩ := h.insert
    rw [hinsert, Statement.text_insert, hcolumns, hplaceholders]
  update := by
    refine ⟨b.setColumns_ne_nil, ?_⟩
    change b.queries.update.text = _
    obtain ⟨assignments, _, hupdate, hcolumns, hplaceholders⟩ := h.update
    have hset := h.setColumns_eq
    have hlength : b.queries.updateFields.length = b.setColumns.length := by
      rw [← hset, List.length_map]
    have hassigned : assignments.length = b.setColumns.length := by
      rw [← hset, ← hcolumns, List.length_map]
    have hpairs : assignments.map (·.text) =
        List.zipWith (fun column placeholder => column ++ " = " ++ placeholder) b.setColumns
          (numbered b.setColumns.length) := by
      rw [map_text_eq_zipWith, hcolumns, hplaceholders, hset, hlength]
    rw [hupdate, Statement.text_update, hpairs, hassigned, text_numbered]
    simp only [String.append_assoc]
  delete := by
    change b.queries.delete.text = _
    rw [h.delete, Statement.text_delete, text_first]
    simp only [String.append_assoc]

/-- The values that are passed to the statement of an operation by position, as they are spelled. -/
def passed (b : Blueprint) : Operation → List String
  | .findById => ["id"]
  | .findAll => []
  | .create => b.queries.insertFields.map (·.bind)
  | .update => b.queries.updateFields.map (·.bind) ++ ["id"]
  | .delete => ["id"]

end Blueprint

end AccessLayer
