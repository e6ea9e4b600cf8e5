import AccessLayer.Artifact.Method
import AccessLayer.Source.Preamble

namespace AccessLayer

namespace Blueprint

open Line

/-- What an operation does to the dictionary. Entities are copied on the way in and on the way
    out. -/
def pythonMockBody (b : Blueprint) : Operation → List Line
  | .findById =>
    ["entity = self._entities.get(entity_id)",
     "return entity.model_copy() if entity is not None else None"]
  | .findAll => ["return [entity.model_copy() for entity in self._entities.values()]"]
  | .create =>
    [s!"key = entity.{b.key.name}", "self._entities[key] = entity.model_copy()", "return key"]
  | .update => ["self._entities[entity_id] = entity.model_copy()"]
  | .delete => ["self._entities.pop(entity_id, None)"]

/-- An operation of the mock, with its head and its body. -/
def pythonMockMethod (b : Blueprint) (op : Operation) : List Line :=
  (Content.heads op "" (pythonHead b.typeName b.key.type op) ":" : Line) ::
    indent (pythonMockBody b op)

/-- How a mock starts, with the entities that it is given. -/
def pythonMockStart (b : Blueprint) : List Line :=
  sections
    [[s!"def __init__(self, entities: Optional[Iterable[{b.typeName}]] = None):"],
     indent
      (sections
        [[s!"self._entities: Dict[{b.key.type}, {b.typeName}] = \x7b\x7d",
          "for entity in entities or ():"],
         indent [s!"self._entities[entity.{b.key.name}] = entity"]])]

/-- The mock over a dictionary. -/
def pythonMock (b : Blueprint) : List Line :=
  sections
    [b.opening s!"In-memory `{b.symbol .contract}` for tests",
     [Content.imports "from typing import Dict, Iterable, List, Optional"],
     b.keyImports,
     ["", b.useSibling .contract, b.useSibling .model, "", "",
      Content.declares "class " (b.symbol .mock) s!"({b.symbol .contract}):"],
     indent
      (sections
        [[s!"\"\"\"`{b.symbol .contract}` backed by a dict keyed on `{b.key.column}`.\"\"\"", ""],
         pythonMockStart b, [""],
         [("" : Line)].intercalate (Operation.all.map (pythonMockMethod b))])]

end Blueprint

end AccessLayer
