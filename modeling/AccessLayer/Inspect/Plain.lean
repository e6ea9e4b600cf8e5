import AccessLayer.Language.Names
import AccessLayer.Schema.Table
import AccessLayer.Text.Blank

namespace AccessLayer

namespace Plain

/-- The marks of a column in a table with the key `key`. -/
def marks (key : Column) (c : Column) : List String :=
  (if c.marked || c.name == key.name then ["pk"] else []) ++
    (if c.nullable then ["nullable"] else []) ++
    (c.reference.map ("references " ++ ·)).toList

/-- The line of a column, with its type, its marks and what it refers to. -/
def columnLine (key : Column) (c : Column) : String :=
  "  " ++ Text.padEnd 24 c.name ++ " " ++ Text.padEnd 12 c.category.label ++ " " ++
    ", ".intercalate (marks key c) ++ "\n"

/-- The line of a table, with its key. -/
def tableLine (t : Table) : String :=
  t.name ++ " -> " ++ Name.typeName t.name ++ " [key: " ++ t.key.name ++ " " ++
    t.key.category.label ++ (if t.keyIsAssumed then " (assumed)" else "") ++ "]\n"

/-- Tables as lines for people: one for the table and its key, one for each column with its
    marks. -/
def render (tables : List Table) : String :=
  if tables.isEmpty then "no tables found\n"
  else
    String.join
      (tables.map fun t => tableLine t ++ String.join (t.columns.map (columnLine t.key)))

end Plain

end AccessLayer
