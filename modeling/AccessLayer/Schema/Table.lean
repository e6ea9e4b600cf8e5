import AccessLayer.Schema.Category

namespace AccessLayer

/-- A column as it is declared. -/
structure Column where
  name : String
  category : Category
  /-- False when the column is declared `NOT NULL`. -/
  nullable : Bool
  marked : Bool
  /-- What an inline `REFERENCES` names; it is kept and shown, and nothing is made from it. -/
  reference : Option String
  deriving DecidableEq, Repr

namespace Column

/-- A key always has a value, even when it is not declared `NOT NULL`. -/
def isOptional (c : Column) : Bool := c.nullable && !c.marked

/-- The key of a table that declares none. -/
def assumedKey : Column := ⟨"id", .uuid, false, true, none⟩

end Column

/-- A table as it is declared. -/
structure Table where
  name : String
  columns : List Column
  deriving DecidableEq, Repr

namespace Table

/-- The marked column; without one, the column named `id` made a key; without that, the assumed
    key. -/
def key (t : Table) : Column :=
  match t.columns.find? (·.marked) with
  | some c => c
  | none =>
    match t.columns.find? (·.name == "id") with
    | some c => { c with marked := true }
    | none => .assumedKey

/-- Whether the key is none of the columns. -/
def keyIsAssumed (t : Table) : Bool := !t.columns.any fun c => c.marked || c.name == "id"

end Table

end AccessLayer
