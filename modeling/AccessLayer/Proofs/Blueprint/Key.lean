import AccessLayer.Blueprint
import Mathlib.Data.List.Nodup

namespace AccessLayer

namespace Table

variable {t : Table}

/-- A key is assumed exactly where no column is marked and none is called `id`. -/
theorem keyIsAssumed_iff : t.keyIsAssumed = true ↔ ∀ c ∈ t.columns, ¬c.marked ∧ c.name ≠ "id" := by
  simp [keyIsAssumed]

/-- An assumed key is the same for every table. -/
theorem key_of_assumed (h : t.keyIsAssumed = true) : t.key = .assumedKey := by
  have hnone := keyIsAssumed_iff.mp h
  have hmarked : t.columns.find? (·.marked) = none := by
    rw [List.find?_eq_none]
    exact fun c hc => (hnone c hc).1
  have hid : t.columns.find? (·.name == "id") = none := by
    rw [List.find?_eq_none]
    exact fun c hc hname => (hnone c hc).2 (by simpa using hname)
  rw [key, hmarked, hid]

/-- Unless it is assumed, the key has the name of a column. -/
theorem exists_key_name (h : t.keyIsAssumed = false) : ∃ c ∈ t.columns, c.name = t.key.name := by
  unfold key
  cases hmarked : t.columns.find? (·.marked) with
  | some c => exact ⟨c, List.mem_of_find?_eq_some hmarked, rfl⟩
  | none =>
    cases hid : t.columns.find? (·.name == "id") with
    | some c => exact ⟨c, List.mem_of_find?_eq_some hid, rfl⟩
    | none =>
      have hassumed : t.keyIsAssumed = true := keyIsAssumed_iff.mpr fun c hc =>
        ⟨List.find?_eq_none.mp hmarked c hc, by simpa using List.find?_eq_none.mp hid c hc⟩
      rw [h] at hassumed
      cases hassumed

/-- Columns are made keys, so a key always has a value. -/
theorem key_marked (t : Table) : t.key.marked = true := by
  unfold key
  cases hmarked : t.columns.find? (·.marked) with
  | some c => exact List.find?_some hmarked
  | none => cases t.columns.find? (·.name == "id") <;> rfl

/-- The field of the key always has a value, also where the column may be null. -/
theorem key_isOptional (t : Table) : t.key.isOptional = false := by
  simp [Column.isOptional, t.key_marked]

/-- The keyed columns are the declared ones, after the assumed key if there is one. -/
theorem keyedColumns_names (t : Table) :
    t.keyedColumns.map (·.name) =
      (if t.keyIsAssumed then ["id"] else []) ++ t.columns.map (·.name) := by
  have hsame : (t.columns.map fun c => if c.name = t.key.name then t.key else c).map (·.name) =
      t.columns.map (·.name) := by
    rw [List.map_map]
    refine List.map_congr_left fun c _ => ?_
    by_cases hkey : c.name = t.key.name <;> simp [hkey]
  unfold keyedColumns
  cases hassumed : t.keyIsAssumed with
  | true =>
    rw [if_pos rfl, if_pos rfl, List.map_cons, hsame, key_of_assumed hassumed]
    rfl
  | false =>
    rw [if_neg Bool.false_ne_true, if_neg Bool.false_ne_true, hsame, List.nil_append]

/-- What holds of the assumed key's name and of the declared names holds of all names. -/
theorem forall_keyedColumns {p : String → Prop} (hid : p "id") (h : ∀ c ∈ t.columns, p c.name) :
    ∀ c ∈ t.keyedColumns, p c.name := by
  intro c hc
  have hname : c.name ∈ t.keyedColumns.map (·.name) := List.mem_map_of_mem hc
  rw [t.keyedColumns_names] at hname
  rcases List.mem_append.mp hname with hassumed | hdeclared
  · split at hassumed
    · rw [List.mem_singleton.mp hassumed]
      exact hid
    · cases hassumed
  · obtain ⟨d, hd, hsame⟩ := List.mem_map.mp hdeclared
    rw [← hsame]
    exact h d hd

/-- The key is among the keyed columns, whether it stands there or is put in front. -/
theorem key_mem_keyedColumns (t : Table) : t.key ∈ t.keyedColumns := by
  unfold keyedColumns
  cases hassumed : t.keyIsAssumed with
  | true =>
    rw [if_pos rfl]
    exact List.mem_cons_self
  | false =>
    rw [if_neg Bool.false_ne_true]
    obtain ⟨c, hc, hname⟩ := exists_key_name hassumed
    exact List.mem_map.mpr ⟨c, hc, if_pos hname⟩

/-- An assumed key has a name that no column has. -/
theorem nodup_keyedColumns (h : (t.columns.map (·.name)).Nodup) :
    (t.keyedColumns.map (·.name)).Nodup := by
  rw [keyedColumns_names]
  cases hassumed : t.keyIsAssumed with
  | true =>
    rw [if_pos rfl, List.singleton_append, List.nodup_cons]
    refine ⟨fun hid => ?_, h⟩
    obtain ⟨c, hc, hname⟩ := List.mem_map.mp hid
    exact (keyIsAssumed_iff.mp hassumed c hc).2 hname
  | false =>
    rw [if_neg Bool.false_ne_true]
    exact h

end Table

namespace Blueprint

variable (l : Language) (service : String) {t : Table}

/-- The fields are the keyed columns, in order and by name. -/
theorem fields_columns (t : Table) :
    (ofTable l service t).fields.map (·.column) = t.keyedColumns.map (·.name) := by
  rw [show (ofTable l service t).fields = t.keyedColumns.map (field l t.key.name) from rfl,
    List.map_map]
  rfl

/-- The key always has a value, so its type is the bare one. -/
theorem ofTable_keyType (t : Table) :
    (ofTable l service t).key.type = l.nativeType t.key.category := by
  change l.columnType t.key = _
  rw [Language.columnType, t.key_isOptional]
  rfl

/-- In a table whose columns are distinct, one field is made from the key. -/
theorem filter_isKey (h : (t.columns.map (·.name)).Nodup) :
    (ofTable l service t).fields.filter (·.isKey) = [field l t.key.name t.key] := by
  obtain ⟨before, after, hsplit⟩ := List.append_of_mem t.key_mem_keyedColumns
  have hnodup := Table.nodup_keyedColumns h
  rw [hsplit, List.map_append, List.map_cons] at hnodup
  have hapart := (List.nodup_middle.mp hnodup).notMem
  rw [← List.map_append] at hapart
  have hplain (cs : List Column) (hcs : cs ⊆ before ++ after) :
      (cs.map (field l t.key.name)).filter (·.isKey) = [] := by
    rw [List.filter_eq_nil_iff]
    intro f hf
    obtain ⟨c, hc, rfl⟩ := List.mem_map.mp hf
    have hother : c.name ≠ t.key.name := fun hname =>
      hapart (List.mem_map.mpr ⟨c, hcs hc, hname⟩)
    simpa [field] using hother
  rw [show (ofTable l service t).fields = t.keyedColumns.map (field l t.key.name) from rfl, hsplit,
    List.map_append, List.map_cons, List.filter_append, List.filter_cons,
    hplain before (List.subset_append_left before after),
    hplain after (List.subset_append_right before after), if_pos (by simp [field])]
  rfl

end Blueprint

end AccessLayer
