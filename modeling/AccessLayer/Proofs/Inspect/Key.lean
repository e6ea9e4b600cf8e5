import AccessLayer.Proofs.Blueprint.Optionality
import AccessLayer.Proofs.Inspect.Document
import AccessLayer.Proofs.Schema.Origin

namespace AccessLayer

namespace Table

/-- In a table with one marked column at most, that column is the key. -/
theorem eq_key_of_marked {t : Table} (hone : t.columns.countP (·.marked) ≤ 1) {c : Column}
    (hc : c ∈ t.columns) (hmarked : c.marked = true) : c = t.key := by
  have hsource := t.keySource_key
  generalize t.key = k at hsource
  cases hsource with
  | marked hcolumns hkey hfirst =>
    rename_i before after
    have hafter : after.countP (·.marked) = 0 := by
      simp only [hcolumns, List.countP_append, List.countP_cons, hkey, if_true] at hone
      omega
    rw [hcolumns] at hc
    rcases List.mem_append.mp hc with hbefore | hrest
    · exact absurd hmarked (by simp [hfirst c hbefore])
    · rcases List.mem_cons.mp hrest with rfl | hlater
      · rfl
      · exact absurd hmarked (List.countP_eq_zero.mp hafter c hlater)
  | promoted _ _ hnone => exact absurd hmarked (by simp [hnone c hc])
  | assumed hnone => exact absurd hmarked (by simp [(hnone c hc).1])

/-- What marks a column as the key where it is shown is that it has the key's name. -/
theorem marked_or_named_iff {t : Table} (hone : t.columns.countP (·.marked) ≤ 1) {c : Column}
    (hc : c ∈ t.columns) : (c.marked || c.name == t.key.name) = (c.name == t.key.name) := by
  cases hmarked : c.marked with
  | false => rw [Bool.false_or]
  | true => rw [← eq_key_of_marked hone hc hmarked, beq_self_eq_true, Bool.or_true]

end Table

namespace Blueprint

/-- The category of the key's field. -/
def keyCategory (b : Blueprint) : Category :=
  ((b.fields.find? (·.isKey)).map (·.category)).getD .text

/-- The fields of declared columns: all but the assumed key's. -/
def columnFields (b : Blueprint) : List Field := if b.key.assumed then b.fields.tail else b.fields

/-- The line of a column, flagged as its field has it. -/
def shownLine (c : Column) (f : Field) : String :=
  "  " ++ Text.padEnd 24 c.name ++ " " ++ Text.padEnd 12 c.category.label ++ " " ++
    ", ".intercalate
      ((if f.isKey then ["pk"] else []) ++ (if c.nullable then ["nullable"] else []) ++
        (c.reference.map ("references " ++ ·)).toList) ++ "\n"

/-- The facts about a table and its key, as the blueprint has them. -/
def view (b : Blueprint) (t : Table) : TableView where
  facts :=
    [("name", .text b.table), ("type_name", .text b.typeName),
     ("primary_key", .text b.key.column), ("primary_key_type", .text b.keyCategory.label),
     ("synthetic_key", .bool b.key.assumed)]
  columns := t.columns.map TableView.ofColumn

/-- What is shown of a table, spelled from its blueprint. -/
def shown (b : Blueprint) (format : Format) (t : Table) : String :=
  match format with
  | .text =>
    b.table ++ " -> " ++ b.typeName ++ " [key: " ++ b.key.column ++ " " ++ b.keyCategory.label ++
      (if b.key.assumed then " (assumed)" else "") ++ "]\n" ++
      String.join (List.zipWith shownLine t.columns b.columnFields)
  | .json => Json.shown (b.view t)
  | .yaml => Yaml.shown (b.view t)

variable (l : Language) (service : String)

private theorem category_of_isKey {t : Table} {f : Field} (hf : f ∈ (ofTable l service t).fields)
    (hkey : f.isKey = true) : f.category = t.key.category := by
  obtain ⟨c, hc, rfl⟩ := List.mem_map.mp hf
  rcases Table.mem_keyedColumns hc with rfl | ⟨-, hname⟩
  · rfl
  · exact absurd (beq_iff_eq.mp hkey) hname

private theorem keyCategory_ofTable (t : Table) :
    (ofTable l service t).keyCategory = t.key.category := by
  have hmem : field l t.key.name t.key ∈ (ofTable l service t).fields :=
    List.mem_map_of_mem t.key_mem_keyedColumns
  have hkey : (field l t.key.name t.key).isKey = true := beq_self_eq_true t.key.name
  obtain ⟨f, hfound⟩ := Option.isSome_iff_exists.mp (List.find?_isSome.mpr ⟨_, hmem, hkey⟩)
  rw [keyCategory, hfound, Option.map_some, Option.getD_some]
  exact category_of_isKey l service (List.mem_of_find?_eq_some hfound) (List.find?_some hfound)

/-- But for an assumed key, there is one field for each column, and the key's is made from the
    key. -/
theorem columnFields_ofTable (t : Table) : (ofTable l service t).columnFields =
    (t.columns.map fun c => if c.name = t.key.name then t.key else c).map (field l t.key.name) := by
  have hassumed : (ofTable l service t).key.assumed = t.keyIsAssumed := rfl
  have hfields : (ofTable l service t).fields = t.keyedColumns.map (field l t.key.name) := rfl
  rw [columnFields, hassumed, hfields, Table.keyedColumns]
  cases t.keyIsAssumed <;> rfl

/-- The line of a column is the same, flagged by its name and mark or by its field. -/
theorem shownLine_field {t : Table} (hone : t.columns.countP (·.marked) ≤ 1) {c : Column}
    (hc : c ∈ t.columns) :
    shownLine c (field l t.key.name (if c.name = t.key.name then t.key else c)) =
      Plain.columnLine t.key c := by
  have hkey : (field l t.key.name (if c.name = t.key.name then t.key else c)).isKey =
      (c.name == t.key.name) := by
    unfold field
    split
    · simp [*]
    · rfl
  rw [shownLine, hkey, Plain.columnLine, Plain.marks, Table.marked_or_named_iff hone hc]

/-- What is shown of a table with one marked column at most can be spelled from the key and the
    fields of its blueprint, in every format. -/
theorem shown_ofTable {t : Table} (hone : t.columns.countP (·.marked) ≤ 1) (format : Format) :
    (ofTable l service t).shown format t = format.shown t := by
  have hcategory := keyCategory_ofTable l service t
  have hview : (ofTable l service t).view t = TableView.ofTable t := by
    rw [view, hcategory]
    rfl
  cases format with
  | text =>
    have hlines : List.zipWith shownLine t.columns (ofTable l service t).columnFields =
        t.columns.map (Plain.columnLine t.key) := by
      rw [columnFields_ofTable, List.map_map, List.zipWith_map_right, List.zipWith_self]
      exact List.map_congr_left fun c hc => shownLine_field l hone hc
    rw [shown, hlines, hcategory]
    rfl
  | json => rw [shown, hview, Format.shown]
  | yaml => rw [shown, hview, Format.shown]

/-- The blueprint has a key, and one field for each column of the table in order; where the key is
    assumed, it has a field of its own in front, which is no column's. -/
structure KeyAmong (b : Blueprint) (t : Table) : Prop where
  exists_isKey : ∃ f ∈ b.fields, f.isKey = true
  of_isKey : ∀ f ∈ b.fields, f.isKey = true →
    f.column = b.key.column ∧ f.category = b.keyCategory
  native : b.language.nativeType b.keyCategory = b.key.type
  columns : b.columnFields.map (·.column) = t.columns.map (·.name)
  declared : b.key.assumed = false → b.fields = b.columnFields
  assumed : b.key.assumed = true → ∃ k, b.fields = k :: b.columnFields ∧ k.isKey = true ∧
    (∀ f ∈ b.columnFields, f.isKey = false) ∧ ∀ c ∈ t.columns, c.name ≠ b.key.column

/-- The key is one of the fields, and its category goes with its type. -/
theorem keyAmong_ofTable (t : Table) : (ofTable l service t).KeyAmong t := by
  have hassumed : (ofTable l service t).key.assumed = t.keyIsAssumed := rfl
  have hfields : (ofTable l service t).fields = t.keyedColumns.map (field l t.key.name) := rfl
  have hcolumnFields := columnFields_ofTable l service t
  have hcategory := keyCategory_ofTable l service t
  refine ⟨⟨_, List.mem_map_of_mem t.key_mem_keyedColumns, beq_self_eq_true t.key.name⟩,
    fun f hf hkey => ?_, ?_, ?_, fun h => ?_, fun h => ?_⟩
  · rw [hcategory]
    refine ⟨?_, category_of_isKey l service hf hkey⟩
    obtain ⟨c, -, rfl⟩ := List.mem_map.mp hf
    exact beq_iff_eq.mp hkey
  · rw [hcategory, ofTable_keyType]
    rfl
  · rw [hcolumnFields, List.map_map, List.map_map]
    refine List.map_congr_left fun c _ => ?_
    by_cases hname : c.name = t.key.name <;> simp [field, hname]
  · rw [columnFields, h]
    rfl
  · rw [hassumed] at h
    have hother : ∀ c ∈ t.columns, c.name ≠ t.key.name := by
      intro c hc
      rw [Table.key_of_assumed h]
      exact (Table.keyIsAssumed_iff.mp h c hc).2
    refine ⟨field l t.key.name t.key, ?_, beq_self_eq_true t.key.name, fun f hf => ?_, hother⟩
    · rw [hcolumnFields, hfields, Table.keyedColumns, if_pos h, List.map_cons]
    · rw [hcolumnFields] at hf
      obtain ⟨k, hk, rfl⟩ := List.mem_map.mp hf
      obtain ⟨c, hc, rfl⟩ := List.mem_map.mp hk
      rw [if_neg (hother c hc)]
      exact beq_eq_false_iff_ne.mpr (hother c hc)

/-- Where one column at most of each table is marked, as it is in every table that is read from a
    text, what is shown of the tables is spelled from their blueprints in any language: the key with
    the category of its field, and the columns with the flags of theirs. -/
theorem inspect_shows_key (l : Language) (service : String) :
    (∀ text, ∀ t ∈ readSchema text, t.columns.countP (·.marked) ≤ 1) ∧
      ∀ (format : Format) (tables : List Table),
        (∀ t ∈ tables, t.columns.countP (·.marked) ≤ 1) →
        inspect format tables =
            format.document (tables.map fun t => (ofTable l service t).shown format t) ∧
          ∀ t ∈ tables, (ofTable l service t).KeyAmong t := by
  refine ⟨fun text t ht => (Table.wellFormed_of_mem_readSchema ht).one_key,
    fun format tables hone => ⟨?_, fun t _ => keyAmong_ofTable l service t⟩⟩
  rw [inspect_eq_document]
  congr 1
  exact List.map_congr_left fun t ht => (shown_ofTable l service (hone t ht) format).symm

/-- A key that has the usual name and one that is assumed, neither of them marked. -/
theorem inspect_shows_key_rooms_remarks :
    readSchema "CREATE TABLE rooms (floor INTEGER, id TEXT);\nCREATE TABLE remarks (body TEXT);" =
        [rooms, remarks] ∧
      (∀ t ∈ [rooms, remarks], t.columns.countP (·.marked) ≤ 1) ∧
      (∀ t ∈ [rooms, remarks], (ofTable .go "service" t).KeyAmong t) ∧
      inspect .text [rooms, remarks] =
        (ofTable .go "service" rooms).shown .text rooms ++
          (ofTable .go "service" remarks).shown .text remarks ∧
      (ofTable .go "service" rooms).shown .text rooms =
        "rooms -> Rooms [key: id Text]\n  floor                    Integer      nullable\n" ++
          "  id                       Text         pk, nullable\n" ∧
      (ofTable .go "service" remarks).shown .text remarks =
        "remarks -> Remarks [key: id Uuid (assumed)]\n" ++
          "  body                     Text         nullable\n" := by
  have hread : readSchema
      "CREATE TABLE rooms (floor INTEGER, id TEXT);\nCREATE TABLE remarks (body TEXT);" =
        [rooms, remarks] := by decide +kernel
  obtain ⟨hparsed, hshown⟩ := inspect_shows_key .go "service"
  have hone : ∀ t ∈ [rooms, remarks], t.columns.countP (·.marked) ≤ 1 := by
    rw [← hread]
    exact hparsed _
  obtain ⟨htext, hamong⟩ := hshown .text [rooms, remarks] hone
  exact ⟨hread, hone, hamong, htext, by decide +kernel, by decide +kernel⟩

end Blueprint

end AccessLayer
