import AccessLayer.Proofs.Blueprint.Inline
import AccessLayer.Proofs.Inspect.Json
import AccessLayer.Proofs.Inspect.Yaml

namespace AccessLayer

open Text (IsSolid)

private theorem Category.label_injective : Function.Injective Category.label := by
  have hall : ∀ c ∈ all, ∀ d ∈ all, c.label = d.label → c = d := by decide
  exact fun c d => hall c c.mem_all d d.mem_all

namespace TableView

private theorem reference_inj {r r' : Option String}
    (h : (r.map Scalar.text).getD .null = (r'.map Scalar.text).getD .null) : r = r' := by
  cases r <;> cases r' <;> simp_all

/-- What is shown of a column determines it. A column that refers to nothing is not taken for one
    that refers to an empty name. -/
theorem ofColumn_injective : Function.Injective ofColumn := by
  rintro ⟨name, category, nullable, marked, reference⟩ ⟨name', category', _, _, reference'⟩ h
  simp only [ofColumn, List.cons.injEq, Prod.mk.injEq, Scalar.text.injEq, Scalar.bool.injEq,
    true_and, and_true] at h
  obtain ⟨rfl, hlabel, rfl, rfl, hreference⟩ := h
  rw [Category.label_injective hlabel, reference_inj hreference]

/-- The key and its category are shown besides, and are made from the columns. -/
theorem ofTable_injective : Function.Injective ofTable := by
  rintro ⟨name, columns⟩ ⟨name', columns'⟩ h
  obtain ⟨hfacts, hcolumns⟩ := TableView.mk.inj h
  simp only [List.cons.injEq, Prod.mk.injEq, Scalar.text.injEq, true_and] at hfacts
  obtain rfl : columns = columns' :=
    (List.map_inj_right fun _ _ => (ofColumn_injective ·)).mp hcolumns
  rw [hfacts.1]

/-- What is shown of a table, by name. -/
def factNames : List String :=
  ["name", "type_name", "primary_key", "primary_key_type", "synthetic_key"]

/-- What is shown of a column, by name. -/
def columnNames : List String :=
  ["name", "type_category", "nullable", "is_primary_key", "foreign_key_ref"]

private theorem isUnbroken_label (c : Category) : (Scalar.text c.label).IsUnbroken := by
  have hall : ∀ c ∈ Category.all, YamlScalar.IsUnbroken c.label := by decide
  exact hall c c.mem_all

private theorem shaped_ofColumn {c : Column} (hname : IsSolid c.name.toList)
    (hreference : ∀ target ∈ c.reference, IsSolid target.toList) :
    (ofColumn c).Shaped columnNames where
  names := rfl
  values := by
    have htarget : ((c.reference.map Scalar.text).getD .null).IsUnbroken := by
      cases href : c.reference with
      | none => trivial
      | some target => exact YamlScalar.isUnbroken_of_isSolid (hreference target href)
    have hlabel := isUnbroken_label c.category
    have hname' : (Scalar.text c.name).IsUnbroken := YamlScalar.isUnbroken_of_isSolid hname
    simpa [ofColumn, Scalar.IsUnbroken] using ⟨hname', hlabel, htarget⟩

/-- What is shown of a table that is read from a text names the same facts as of any other, and no
    line break stands in it. -/
theorem shaped_ofTable {t : Table} (h : t.WellFormed) :
    (ofTable t).Shaped factNames columnNames where
  facts := {
    names := rfl
    values := by
      have hcolumns : ∀ c ∈ t.columns, IsSolid c.name.toList := fun c hc => (h.columns c hc).1.solid
      have hlegible : t.Legible := ⟨h.name.isSolid, hcolumns⟩
      have hname := YamlScalar.isUnbroken_of_isSolid hlegible.name
      have htypeName := YamlScalar.isUnbroken_of_isSolid (Name.isSolid_typeName hlegible.name)
      have hkey :=
        YamlScalar.isUnbroken_of_isSolid (hlegible.keyedColumns t.key t.key_mem_keyedColumns)
      have hlabel := isUnbroken_label t.key.category
      simpa [ofTable, Scalar.IsUnbroken] using ⟨hname, htypeName, hkey, hlabel⟩ }
  columns := by
    refine List.forall_mem_map.mpr fun c hc => ?_
    obtain ⟨hname, hreference⟩ := h.columns c hc
    exact shaped_ofColumn hname.solid fun target htarget => (hreference target htarget).solid

end TableView

/-- Whatever they are called, tables are determined by the JSON document that shows them. -/
theorem inspect_json_injective : Function.Injective (inspect .json) := by
  intro tables tables' h
  have hsome (tables : List Table) :
      ∀ v ∈ tables.map TableView.ofTable, ∀ c ∈ v.columns, c ≠ [] := by
    simp [TableView.ofTable, TableView.ofColumn]
  have hviews := Json.render_injOn (hsome tables) (hsome tables') h
  exact (List.map_inj_right fun _ _ => (TableView.ofTable_injective ·)).mp hviews

/-- Tables whose names hold no blank are determined by the YAML document that shows them. -/
theorem inspect_yaml_injOn :
    Set.InjOn (inspect .yaml) {tables | ∀ t ∈ tables, t.WellFormed} := by
  intro tables htables tables' htables' h
  have hshaped {tables : List Table} (htables : ∀ t ∈ tables, t.WellFormed) :
      ∀ v ∈ tables.map TableView.ofTable,
        v.Shaped TableView.factNames TableView.columnNames :=
    List.forall_mem_map.mpr fun t ht => TableView.shaped_ofTable (htables t ht)
  have hviews := Yaml.render_injOn (by decide) (by decide) (by decide) (by decide)
    (hshaped htables) (hshaped htables') h
  exact (List.map_inj_right fun _ _ => (TableView.ofTable_injective ·)).mp hviews

/-- Two texts are shown alike, in JSON or in YAML, only where they declare the same tables. -/
theorem structured_alike_iff (a b : String) :
    inspect .json (readSchema a) = inspect .json (readSchema b) ∨
        inspect .yaml (readSchema a) = inspect .yaml (readSchema b) ↔
      readSchema a = readSchema b := by
  constructor
  · rintro (hjson | hyaml)
    · exact inspect_json_injective hjson
    · exact inspect_yaml_injOn (fun _ => Table.wellFormed_of_mem_readSchema)
        (fun _ => Table.wellFormed_of_mem_readSchema) hyaml
  · intro h
    exact Or.inl (congrArg _ h)

end AccessLayer
