import AccessLayer.Artifact.Method
import AccessLayer.Source.Preamble

namespace AccessLayer

namespace Blueprint

open Line

/-- What an operation does to the map. -/
def rustMockBody (b : Blueprint) : Operation → List Line
  | .findById => ["Ok(self.entities().get(&id).cloned())"]
  | .findAll => ["Ok(self.entities().values().cloned().collect())"]
  | .create =>
    [s!"let id = entity.{b.key.name}.clone();",
     "self.entities().insert(id.clone(), entity.clone());", "Ok(id)"]
  | .update => ["self.entities().insert(id, entity.clone());", "Ok(())"]
  | .delete => ["self.entities().remove(&id);", "Ok(())"]

/-- An operation of the mock, with its head and its body. -/
def rustMockMethod (b : Blueprint) (op : Operation) : List Line :=
  block (Content.heads op "" (rustHead b.typeName b.key.type op) " \x7b") (rustMockBody b op)
    "\x7d"

/-- The imports of the tests: what the sample values are made with. -/
def testImports (b : Blueprint) : List Line :=
  sections
    [["use super::*;"], onlyIf (b.uses .timestamp) [Content.imports "use chrono::Utc;"],
     onlyIf (b.uses .uuid) [Content.imports "use uuid::Uuid;"]]

/-- An asynchronous test of that name. -/
def rustTest (name : String) (body : List Line) : List Line :=
  ("#[tokio::test]" : Line) :: braced s!"async fn {name}()" body

/-- The tests that a mock brings along, over an entity with a sample for each field. -/
def rustTests (b : Blueprint) : List Line :=
  let fresh : Line := s!"let dao = {b.symbol .mock}::new();"
  let samples := b.fields.map fun f => (s!"{f.name}: {f.sample}," : Line)
  sections
    [b.testImports, [""],
     braced s!"fn sample() -> {b.typeName}" (braced b.typeName samples), [""],
     rustTest "create_then_find_by_id_round_trips"
       [fresh, "let entity = sample();", "let id = dao.create(&entity).await.unwrap();",
        "assert_eq!(dao.find_by_id(id).await.unwrap(), Some(entity));"],
     [""],
     rustTest "delete_then_find_by_id_is_none"
       [fresh, "let id = dao.create(&sample()).await.unwrap();",
        "dao.delete(id.clone()).await.unwrap();",
        "assert_eq!(dao.find_by_id(id).await.unwrap(), None);"],
     [""],
     rustTest "delete_of_absent_key_is_a_no_op"
       [fresh, "let entity = sample();",
        s!"dao.delete(entity.{b.key.name}.clone()).await.unwrap();",
        "assert!(dao.find_all().await.unwrap().is_empty());"]]

/-- How a mock is made, empty or with some entities, and how its map is reached. -/
def rustMockBasics (b : Blueprint) : List Line :=
  sections
    [braced "pub fn new() -> Self" ["Self::default()"], [""],
     braced s!"pub fn with_data(entities: Vec<{b.typeName}>) -> Self"
       (sections
         [["let map = entities"],
          indent
           [".into_iter()", s!".map(|entity| (entity.{b.key.name}.clone(), entity))",
            ".collect();"],
          braced "Self" ["entities: Arc::new(Mutex::new(map)),"]]),
     [""],
     braced s!"fn entities(&self) -> MutexGuard<'_, HashMap<{b.key.type}, {b.typeName}>>"
       ["// A poisoned lock only means another test panicked mid-operation.",
        "self.entities.lock().unwrap_or_else(|e| e.into_inner())"]]

/-- The mock over a shared map behind a lock, with tests of its own. -/
def rustMock (b : Blueprint) : List Line :=
  sections
    [b.opening s!"In-memory `{b.symbol .contract}` for tests",
     [b.useSibling .contract, b.useSibling .model,
      Content.imports "use crate::model::error::DatabaseError;",
      Content.imports "use async_trait::async_trait;",
      Content.imports "use std::collections::HashMap;",
      Content.imports "use std::sync::\x7bArc, Mutex, MutexGuard\x7d;"],
     b.keyImports,
     ["", s!"/// `{b.symbol .contract}` backed by a map keyed on `{b.key.column}`",
      "#[derive(Debug, Clone, Default)]"],
     block (Content.declares "pub struct " (b.symbol .mock) " \x7b")
       [s!"entities: Arc<Mutex<HashMap<{b.key.type}, {b.typeName}>>>,"] "\x7d",
     [""],
     braced s!"impl {b.symbol .mock}" (rustMockBasics b),
     ["", "#[async_trait]"],
     braced s!"impl {b.symbol .contract} for {b.symbol .mock}"
       ([("" : Line)].intercalate (Operation.all.map (rustMockMethod b))),
     ["", "#[cfg(test)]"],
     braced "mod tests" (rustTests b)]

end Blueprint

end AccessLayer
