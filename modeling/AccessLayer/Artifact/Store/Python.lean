import AccessLayer.Artifact.Method
import AccessLayer.Source.Preamble

namespace AccessLayer

namespace Blueprint

open Line

/-- A statement under its name. -/
def pythonConstant (name : String) (s : Statement) : Line :=
  Content.declares "" name s!" = text(\"{s.text}\")"

/-- The identifier that is asked for, under the parameter of the key. -/
def pythonKeyArgument (b : Blueprint) : Argument := ⟨some b.key.param, "entity_id"⟩

/-- The value of a field, under the name of its column. -/
def pythonFieldArgument (f : Field) : Argument := ⟨some f.column, f.bind⟩

/-- An entry of the dictionary of values, on a line of its own. -/
def pythonEntry (a : Argument) : Line := Content.passes "" a ","

/-- What an operation has changed is kept. -/
def pythonCommit : Line := "await self.session.commit()"

/-- Runs a statement with a dictionary of values, entry by entry. -/
def pythonCall (opening statement : String) (arguments : List Argument) : List Line :=
  block s!"{opening}await self.session.execute("
    (sections [[s!"{statement},"], block "\x7b" (arguments.map pythonEntry) "\x7d,"]) ")"

/-- What an operation does with its statement. -/
def pythonBody (b : Blueprint) : Operation → List Line
  | .findById =>
    [Content.passes "result = await self.session.execute(FIND_BY_ID, \x7b" b.pythonKeyArgument
       "\x7d)",
     "row = result.first()", "return _row_to_entity(row) if row is not None else None"]
  | .findAll =>
    ["result = await self.session.execute(FIND_ALL)",
     "return [_row_to_entity(row) for row in result]"]
  | .create =>
    sections
      [pythonCall "result = " "INSERT" (b.queries.insertFields.map pythonFieldArgument),
       ["key = result.scalar_one()", pythonCommit, "return key"]]
  | .update =>
    sections
      [pythonCall "" "UPDATE"
         (b.queries.updateFields.map pythonFieldArgument ++ [b.pythonKeyArgument]),
       [pythonCommit]]
  | .delete =>
    [Content.passes "await self.session.execute(DELETE, \x7b" b.pythonKeyArgument "\x7d)",
     pythonCommit]

/-- An operation of the store, with its head and its body. -/
def pythonStoreMethod (b : Blueprint) (op : Operation) : List Line :=
  (Content.heads op "" (pythonHead b.typeName b.key.type op) ":" : Line) ::
    indent (pythonBody b op)

/-- The store over an asynchronous session, with the values of a statement in a dictionary under the
    names of their parameters. -/
def pythonStore (b : Blueprint) : List Line :=
  sections
    [b.opening s!"SQLAlchemy `{b.symbol .contract}`",
     [Content.imports "from typing import List, Optional"],
     b.keyImports,
     ["", Content.imports "from sqlalchemy import text",
      Content.imports "from sqlalchemy.ext.asyncio import AsyncSession", "",
      b.useSibling .contract, b.useSibling .model, "",
      pythonConstant "FIND_BY_ID" b.queries.findById, pythonConstant "FIND_ALL" b.queries.findAll,
      pythonConstant "INSERT" b.queries.insert, pythonConstant "UPDATE" b.queries.update,
      pythonConstant "DELETE" b.queries.delete, "", "",
      Content.declares "def " "_row_to_entity" s!"(row) -> {b.typeName}:"],
     indent
      (sections
        [["mapping = row._mapping"],
         block s!"return {b.typeName}("
           (b.fields.map fun f => (s!"{f.name}={f.read}," : Line)) ")"]),
     ["", "", Content.declares "class " (b.symbol .store) s!"({b.symbol .contract}):"],
     indent
      (sections
        [[s!"\"\"\"`{b.symbol .contract}` over an async SQLAlchemy session.\"\"\"", "",
          "def __init__(self, session: AsyncSession):"],
         indent ["self.session = session"],
         [""],
         [("" : Line)].intercalate (Operation.all.map (pythonStoreMethod b))])]

end Blueprint

end AccessLayer
