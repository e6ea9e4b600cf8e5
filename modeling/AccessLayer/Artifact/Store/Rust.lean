import AccessLayer.Artifact.Method
import AccessLayer.Source.Preamble

namespace AccessLayer

namespace Blueprint

open Line

/-- A statement under its name. -/
def rustConstant (name : String) (s : Statement) : Line :=
  Content.declares "const " name s!": &str = \"{s.text}\";"

/-- Passes the value of the next placeholder. -/
def rustBound (value : String) : Line := Content.passes ".bind(" ⟨none, value⟩ ")"

/-- What runs a query and turns its failure into the error of the contract. -/
def rustAwaited (run : String) : List Line := [s!".{run}(self.pool.as_ref())", ".await"]

/-- Turns the failure of a query into the error of the contract. -/
def rustChecked : Line := ".map_err(query_error)?;"

/-- What an operation does with its statement, one bound value per placeholder. -/
def rustBody (b : Blueprint) : Operation → List Line
  | .findById =>
    sections
      [["let row = sqlx::query(FIND_BY_ID)"],
       indent (sections [[rustBound "id"], rustAwaited "fetch_optional", [rustChecked]]),
       ["row.as_ref()"], indent [".map(row_to_entity)", ".transpose()", ".map_err(query_error)"]]
  | .findAll =>
    sections
      [["let rows = sqlx::query(FIND_ALL)"],
       indent (sections [rustAwaited "fetch_all", [rustChecked]]),
       ["rows.iter()"],
       indent
        [".map(row_to_entity)", ".collect::<Result<Vec<_>, _>>()", ".map_err(query_error)"]]
  | .create =>
    sections
      [["let row = sqlx::query(INSERT)"],
       indent
        (sections
          [b.queries.insertFields.map fun f => rustBound f.bind, rustAwaited "fetch_one",
           [rustChecked]]),
       [s!"row.try_get(\"{b.key.column}\").map_err(query_error)"]]
  | .update =>
    sections
      [["sqlx::query(UPDATE)"],
       indent
        (sections
          [b.queries.updateFields.map fun f => rustBound f.bind, [rustBound "id"],
           rustAwaited "execute", [rustChecked]]),
       ["Ok(())"]]
  | .delete =>
    sections
      [["sqlx::query(DELETE)"],
       indent (sections [[rustBound "id"], rustAwaited "execute", [rustChecked]]),
       ["Ok(())"]]

/-- An operation of the store, with its head and its body. -/
def rustStoreMethod (b : Blueprint) (op : Operation) : List Line :=
  block (Content.heads op "" (rustHead b.typeName b.key.type op) " \x7b") (rustBody b op)
    "\x7d"

/-- The store over an asynchronous connection pool. -/
def rustStore (b : Blueprint) : List Line :=
  sections
    [b.opening s!"PostgreSQL `{b.symbol .contract}`",
     [b.useSibling .contract, b.useSibling .model,
      Content.imports "use crate::model::error::DatabaseError;",
      Content.imports "use async_trait::async_trait;",
      Content.imports "use sqlx::postgres::PgRow;",
      Content.imports "use sqlx::\x7bPgPool, Row\x7d;", Content.imports "use std::sync::Arc;"],
     b.keyImports,
     ["", rustConstant "FIND_BY_ID" b.queries.findById, rustConstant "FIND_ALL" b.queries.findAll,
      rustConstant "INSERT" b.queries.insert, rustConstant "UPDATE" b.queries.update,
      rustConstant "DELETE" b.queries.delete, "",
      s!"/// `{b.symbol .contract}` backed by a PostgreSQL pool"],
     block (Content.declares "pub struct " (b.symbol .store) " \x7b") ["pool: Arc<PgPool>,"]
       "\x7d",
     [""],
     braced s!"impl {b.symbol .store}"
       (braced "pub fn new(pool: Arc<PgPool>) -> Self" ["Self \x7b pool \x7d"]),
     [""],
     block
       (Content.declares "fn " "row_to_entity"
         s!"(row: &PgRow) -> Result<{b.typeName}, sqlx::Error> \x7b")
       (block s!"Ok({b.typeName} \x7b" (b.fields.map fun f => (s!"{f.name}: {f.read}," : Line))
         "\x7d)")
       "\x7d",
     [""],
     block (Content.declares "fn " "query_error" "(e: sqlx::Error) -> DatabaseError \x7b")
       ["DatabaseError::QueryError(e.to_string())"] "\x7d",
     ["", "#[async_trait]"],
     braced s!"impl {b.symbol .contract} for {b.symbol .store}"
       ([("" : Line)].intercalate (Operation.all.map (rustStoreMethod b)))]

end Blueprint

end AccessLayer
