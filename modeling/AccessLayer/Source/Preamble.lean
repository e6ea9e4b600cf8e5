import AccessLayer.Blueprint
import AccessLayer.Source.Line

namespace AccessLayer

namespace Blueprint

open Line

/-- The signature of an operation on the table's entities. -/
def signature (b : Blueprint) (op : Operation) : String :=
  b.language.signature b.typeName b.key.type op

/-- The main declaration of another artifact of the table. -/
def symbol (b : Blueprint) (kind : Kind) : String := b.language.symbol b.typeName kind

/-- What a generated file says of itself after naming its purpose. -/
def originNote : String := "Generated by daogen; edits are overwritten on regeneration."

/-- The first lines of a file that is for `purpose`. -/
def opening (b : Blueprint) (purpose : String) : List Line :=
  match b.language with
  | .rust => [s!"//! {purpose}. {originNote}", ""]
  | .cpp => [s!"// {purpose}. {originNote}", "#pragma once", ""]
  | .python => [s!"\"\"\"{purpose}. {originNote}\"\"\""]
  | .go => ["// Code generated by daogen. DO NOT EDIT.", "", s!"package {b.package}", ""]

/-- Brings the main declaration of a sibling module into scope. -/
def useSibling (b : Blueprint) (kind : Kind) : Content :=
  let place := b.language.moduleName kind
  match b.language with
  | .python => .refers kind "from ." place (some (" import ", b.symbol kind)) ""
  | _ => .refers kind "use super::" place (some ("::", b.symbol kind)) ";"

/-- Includes the header of a sibling artifact. -/
def includeSibling (b : Blueprint) (kind : Kind) : Content :=
  .refers kind "#include \""
    (Language.headerFolder kind ++ "/" ++ (b.language.fileName? b.table kind).getD "") none "\""

/-- The imports without which the type of the key is unknown. -/
def keyImports (b : Blueprint) : List Line :=
  match b.language with
  | .rust =>
    onlyIf (b.key.type == "Uuid") [Content.imports "use uuid::Uuid;"] ++
      onlyIf (b.key.type == "DateTime<Utc>")
        [Content.imports "use chrono::\x7bDateTime, Utc\x7d;"]
  | .python =>
    onlyIf (b.key.type == "UUID") [Content.imports "from uuid import UUID"] ++
      onlyIf (b.key.type == "datetime") [Content.imports "from datetime import datetime"]
  | .go =>
    onlyIf (b.key.type == "uuid.UUID") ["", Content.imports "\"github.com/google/uuid\""] ++
      onlyIf (b.key.type == "time.Time") [Content.imports "\"time\""]
  | .cpp => []

/-- The import block of a language that has one, with the imports for the key after the others. -/
def importBlock (b : Blueprint) (libraries : List Line) : List Line :=
  sections [block "import (" (libraries ++ b.keyImports) ")", [""]]

end Blueprint

end AccessLayer
