import AccessLayer.Proofs.Blueprint.Key
import AccessLayer.Proofs.Language.Names
import AccessLayer.Schema.Reading

namespace AccessLayer

namespace Blueprint

/-- The fields of a table whose columns are distinct have distinct identifiers exactly when no two
    of these columns clash, the assumed key among them. Identifiers are never reserved words. Where
    fields are exported, names in ASCII clash when they have one skeleton. -/
theorem fieldNames_distinct_iff_no_clash (l : Language) (service : String) (t : Table)
    (hdistinct : (t.columns.map (·.name)).Nodup) :
    (((ofTable l service t).fields.map (·.name)).Nodup ↔
        ∀ f ∈ (ofTable l service t).fields, ∀ g ∈ (ofTable l service t).fields,
          ¬ l.NameClash f.column g.column) ∧
      (∀ f ∈ (ofTable l service t).fields, f.name ∉ l.reserved) ∧
      ∀ a b : String, Name.IsAscii a.toList → Name.IsAscii b.toList →
        (Language.go.NameClash a b ↔
          a ≠ b ∧ Name.skeleton a.toList = Name.skeleton b.toList) := by
  have hnames : (ofTable l service t).fields.map (·.name) =
      ((ofTable l service t).fields.map (·.column)).map l.fieldName := by
    rw [List.map_map]
    refine List.map_congr_left fun f hf => ?_
    obtain ⟨c, _, rfl⟩ := List.mem_map.mp hf
    rfl
  have hcolumns : ((ofTable l service t).fields.map (·.column)).Nodup := by
    rw [fields_columns]
    exact Table.nodup_keyedColumns hdistinct
  refine ⟨?_, fun f hf => ?_, fun a b ha hb => ?_⟩
  · rw [hnames, List.nodup_map_iff_inj_on hcolumns]
    simp only [List.forall_mem_map]
    constructor
    · intro hinj f hf g hg hclash
      have hsame := hinj f hf g hg (Language.fieldName_eq_of_clash hclash)
      rw [hsame] at hclash
      exact l.not_nameClash_self _ hclash
    · intro hapart f hf g hg hsame
      rcases (l.fieldName_eq_iff _ _).mp hsame with heq | hclash | hclash
      · exact heq
      · exact absurd hclash (hapart f hf g hg)
      · exact absurd hclash (hapart g hg f hf)
  · obtain ⟨c, _, rfl⟩ := List.mem_map.mp hf
    exact l.fieldName_not_mem_reserved c.name
  · rw [← Name.typeName_eq_iff ha hb]
    simp [Language.NameClash, Language.suffixedKeywords]

/-- A table with reserved words among its columns, none of which clash. -/
def nodes : Table :=
  ⟨"nodes", [⟨"super", .bigInteger, true, false, none⟩, ⟨"box", .text, true, false, none⟩,
    ⟨"super_box", .text, true, false, none⟩]⟩

/-- The key that is assumed, a word that cannot be raw and one that is raw. -/
theorem fieldNames_distinct_iff_no_clash_nodes :
    readSchema "CREATE TABLE nodes (super BIGINT, box TEXT, super_box TEXT);" = [nodes] ∧
      (nodes.columns.map (·.name)).Nodup ∧
      (ofTable .rust "service" nodes).fields.map (·.name) = ["id", "super_", "r#box", "super_box"] ∧
      ((ofTable .rust "service" nodes).fields.map (·.name)).Nodup ∧
      ∀ f ∈ (ofTable .rust "service" nodes).fields, f.name ∉ Language.rust.reserved := by
  have hdistinct : (nodes.columns.map (·.name)).Nodup := by decide
  obtain ⟨hiff, hfree, _⟩ := fieldNames_distinct_iff_no_clash .rust "service" nodes hdistinct
  exact ⟨by decide +kernel, hdistinct, by decide +kernel, hiff.mpr (by decide +kernel), hfree⟩

/-- A column may have the very name that the field of a reserved word gets. -/
theorem class_shares_an_identifier :
    ∃ t, readSchema "CREATE TABLE courses (id UUID PRIMARY KEY, class TEXT, class_ TEXT);" = [t] ∧
      (t.columns.map (·.name)).Nodup ∧
      (ofTable .python "service" t).fields.map (·.name) = ["id", "class_", "class_"] := by
  refine ⟨⟨"courses", [⟨"id", .uuid, true, true, none⟩, ⟨"class", .text, true, false, none⟩,
    ⟨"class_", .text, true, false, none⟩]⟩, by decide +kernel, by decide, by decide +kernel⟩

end Blueprint

end AccessLayer
