import AccessLayer.Inspect.View
import AccessLayer.Inspect.YamlScalar

namespace AccessLayer

namespace Yaml

/-- A scalar as the value of a key that stands `indent` spaces in. -/
def scalar (indent : Nat) : Scalar → String
  | .null => "null"
  | .bool true => "true"
  | .bool false => "false"
  | .text s => YamlScalar.render (indent + 2) s

/-- The entries of a record as an item of a list, whose dash stands `indent - 2` spaces in. -/
def item (indent : Nat) (r : Record) : List String :=
  let pad (n : Nat) := String.ofList (List.replicate n ' ')
  let entry (e : String × Scalar) := e.1 ++ ": " ++ scalar indent e.2
  match r with
  | [] => []
  | first :: rest =>
    (pad (indent - 2) ++ "- " ++ entry first) :: rest.map fun e => pad indent ++ entry e

/-- The lines of a table. The items of a list stand as far in as the key above them. -/
def table (v : TableView) : List String :=
  item 2 v.facts ++
    if v.columns.isEmpty then ["  columns: []"] else "  columns:" :: v.columns.flatMap (item 4)

/-- An entry with the line break after it, which a block of lines may have brought along. -/
def ended (entry : String) : String :=
  if entry.toList.getLast?.any YamlScalar.isBreak then entry else entry ++ "\n"

/-- The document, which ends in a line feed. -/
def render (views : List TableView) : String :=
  if views.isEmpty then "[]\n" else String.join ((views.flatMap table).map ended)

end Yaml

end AccessLayer
