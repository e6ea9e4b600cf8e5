import AccessLayer.Source.Preamble

namespace AccessLayer

namespace Blueprint

open Line

/-- The name given to a serialized field, where its identifier would not yield the column. -/
def rename? (f : Field) : Option String := if f.isRenamed then some f.column else none

/-- A field, renamed for the exchange where its own name would not yield the column. -/
def rustField (f : Field) : List Line :=
  sections
    [[s!"/// {f.label}"],
     ((rename? f).map fun column => (s!"#[serde(rename = \"{column}\")]" : Line)).toList,
     [s!"pub {f.name}: {f.type},"]]

/-- A structure with one field per column. -/
def rustModel (b : Blueprint) : List Line :=
  sections
    [b.opening s!"`{b.table}` model",
     onlyIf (b.uses .timestamp) [Content.imports "use chrono::\x7bDateTime, Utc\x7d;"],
     [Content.imports "use serde::\x7bDeserialize, Serialize\x7d;"],
     onlyIf (b.uses .uuid) [Content.imports "use uuid::Uuid;"],
     ["", s!"/// Represents a {b.table} in the system",
      "#[derive(Debug, Clone, PartialEq, Serialize, Deserialize)]"],
     block (Content.declares "pub struct " (b.symbol .model) " \x7b") (b.fields.flatMap rustField)
       "\x7d"]

/-- A field with its label in a comment. -/
def cppField (f : Field) : List Line := [s!"/// {f.label}", s!"{f.type} {f.name};"]

/-- The comparison of two entities, field by field. -/
def cppEquality (fields : List Field) : String :=
  "return " ++
    "\n            && ".intercalate (fields.map fun f => f.name ++ " == other." ++ f.name) ++ ";"

/-- A structure with one field per column, and its comparison. -/
def cppModel (b : Blueprint) : List Line :=
  sections
    [b.opening s!"`{b.table}` model",
     [Content.imports "#include <cstdint>", Content.imports "#include <string>"],
     onlyIf b.usesOptional [Content.imports "#include <optional>"],
     onlyIf (b.uses .timestamp) [Content.imports "#include <chrono>"],
     onlyIf (b.uses .json) [Content.imports "#include <nlohmann/json.hpp>"],
     ["", "namespace models \x7b", "", s!"/// Represents a {b.table} in the system"],
     block (Content.declares "struct " (b.symbol .model) " \x7b")
       (sections
         [b.fields.flatMap cppField, [""],
          braced s!"bool operator==(const {b.typeName}& other) const" [cppEquality b.fields], [""],
          braced s!"bool operator!=(const {b.typeName}& other) const"
            ["return !(*this == other);"]])
       "\x7d;",
     ["", "\x7d  // namespace models"]]

/-- The alias of a field whose identifier is not the column. -/
def alias? (f : Field) : Option String := if f.name == f.column then none else some f.column

/-- The value of a field that is left out; there is none where the field is required. -/
def defaultValue (f : Field) : String := if f.optional then "None" else "..."

/-- A field, with an alias where its name is not the column's, and with an absent value to start
    from where it is optional. -/
def pythonField (f : Field) : Line :=
  let aliased := ((alias? f).map fun column => ", alias=\"" ++ column ++ "\"").getD ""
  s!"{f.name}: {f.type} = Field({defaultValue f}, description=\"{f.label}\"{aliased})"

/-- A data model with one field per column. -/
def pythonModel (b : Blueprint) : List Line :=
  sections
    [b.opening s!"`{b.table}` model",
     onlyIf (b.uses .timestamp) [Content.imports "from datetime import datetime"],
     onlyIf b.usesOptional [Content.imports "from typing import Optional"],
     onlyIf (b.uses .uuid) [Content.imports "from uuid import UUID"],
     ["", Content.imports "from pydantic import BaseModel, ConfigDict, Field", "", "",
      Content.declares "class " (b.symbol .model) "(BaseModel):"],
     indent
      [s!"\"\"\"Represents a {b.table} in the system.\"\"\"", "",
       "model_config = ConfigDict(from_attributes=True, populate_by_name=True)", ""],
     indent (b.fields.map pythonField)]

/-- The tags under which a field is exchanged and stored. -/
def tags (f : Field) : String := "`json:\"" ++ f.column ++ "\" db:\"" ++ f.column ++ "\"`"

/-- A field with its tags, which name the column. -/
def goField (f : Field) : List Line :=
  [s!"// {f.label}", s!"{f.name} {f.type} {tags f}"]

/-- A structure with one field per column. -/
def goModel (b : Blueprint) : List Line :=
  let timed := b.uses .timestamp
  let keyed := b.uses .uuid
  sections
    [b.opening "",
     onlyIf (timed || keyed)
       (sections
         [block "import ("
            (sections
              [onlyIf timed [Content.imports "\"time\""], onlyIf (timed && keyed) [""],
               onlyIf keyed [Content.imports "\"github.com/google/uuid\""]])
            ")", [""]]),
     [s!"// {b.typeName} represents a {b.table} in the system"],
     block (Content.declares "type " (b.symbol .model) " struct \x7b") (b.fields.flatMap goField)
       "\x7d"]

/-- The model of a table: a type with one field per column, and the name under which each field is
    exchanged. -/
def modelLines (b : Blueprint) : List Line :=
  match b.language with
  | .rust => rustModel b
  | .cpp => cppModel b
  | .python => pythonModel b
  | .go => goModel b

end Blueprint

end AccessLayer
