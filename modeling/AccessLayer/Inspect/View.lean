import AccessLayer.Language.Names
import AccessLayer.Schema.Table

namespace AccessLayer

/-- A value that is shown as it is. -/
inductive Scalar
  | null
  | bool (b : Bool)
  | text (s : String)
  deriving DecidableEq, Repr

/-- Scalars by name, in the order in which they are shown. -/
abbrev Record := List (String × Scalar)

/-- What is shown of a table. -/
structure TableView where
  facts : Record
  columns : List Record
  deriving DecidableEq, Repr

namespace TableView

/-- What is shown of a column. -/
def ofColumn (c : Column) : Record :=
  [("name", .text c.name), ("type_category", .text c.category.label),
   ("nullable", .bool c.nullable), ("is_primary_key", .bool c.marked),
   ("foreign_key_ref", (c.reference.map Scalar.text).getD .null)]

/-- The key is shown as the emitters see it, with a mark when no column declares it. -/
def ofTable (t : Table) : TableView where
  facts :=
    [("name", .text t.name), ("type_name", .text (Name.typeName t.name)),
     ("primary_key", .text t.key.name), ("primary_key_type", .text t.key.category.label),
     ("synthetic_key", .bool t.keyIsAssumed)]
  columns := t.columns.map ofColumn

end TableView

end AccessLayer
