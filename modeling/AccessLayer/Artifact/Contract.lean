import AccessLayer.Source.Preamble

namespace AccessLayer

namespace Blueprint

open Line

/-- The operations as an asynchronous trait. -/
def rustContract (b : Blueprint) : List Line :=
  sections
    [b.opening s!"`{b.table}` data access contract",
     [b.useSibling .model, Content.imports "use crate::model::error::DatabaseError;",
      Content.imports "use async_trait::async_trait;"],
     b.keyImports,
     ["", s!"/// Data access operations for the `{b.table}` table", "#[async_trait]"],
     block (Content.declares "pub trait " (b.symbol .contract) ": Send + Sync \x7b")
       (b.operations.flatMap fun d => [s!"/// {d.doc}", Content.heads d.op "" d.signature ";"])
       "\x7d"]

/-- The operations as an abstract class that returns futures. -/
def cppContract (b : Blueprint) : List Line :=
  sections
    [b.opening s!"`{b.table}` data access contract",
     [b.includeSibling .model, "", Content.imports "#include <future>",
      Content.imports "#include <optional>", Content.imports "#include <vector>", "",
      "namespace dao \x7b", "", s!"/// Data access operations for the `{b.table}` table",
      Content.declares "class " (b.symbol .contract) " \x7b", "public:"],
     indent [s!"virtual ~{b.symbol .contract}() = default;", ""],
     indent
      (b.operations.flatMap fun d =>
        [s!"/// {d.doc}", Content.heads d.op "virtual " d.signature " = 0;"]),
     ["\x7d;", "", "\x7d  // namespace dao"]]

/-- The operations as an abstract base class. -/
def pythonContract (b : Blueprint) : List Line :=
  sections
    [b.opening s!"`{b.table}` data access contract",
     [Content.imports "from abc import ABC, abstractmethod",
      Content.imports "from typing import List, Optional"],
     b.keyImports,
     ["", b.useSibling .model, "", "", Content.declares "class " (b.symbol .contract) "(ABC):"],
     indent [s!"\"\"\"Data access operations for the `{b.table}` table.\"\"\""],
     indent
      (b.operations.flatMap fun d =>
        ["", "@abstractmethod", Content.heads d.op "" d.signature ":",
         ⟨1, .text s!"\"\"\"{d.doc}.\"\"\""⟩]),
     [""]]

/-- The operations as an interface, each with a request context. -/
def goContract (b : Blueprint) : List Line :=
  sections
    [b.opening "", b.importBlock [Content.imports "\"context\""],
     [s!"// {b.symbol .contract} defines data access operations for the {b.table} table"],
     block (Content.declares "type " (b.symbol .contract) " interface \x7b")
       (b.operations.flatMap fun d =>
         [s!"// {d.name}: {d.doc}", Content.heads d.op "" d.signature ""])
       "\x7d"]

/-- The contract of a table: its five operations, declared and not implemented. -/
def contractLines (b : Blueprint) : List Line :=
  match b.language with
  | .rust => rustContract b
  | .cpp => cppContract b
  | .python => pythonContract b
  | .go => goContract b

end Blueprint

end AccessLayer
