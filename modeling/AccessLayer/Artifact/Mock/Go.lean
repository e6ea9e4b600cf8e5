import AccessLayer.Artifact.Method
import AccessLayer.Source.Preamble

namespace AccessLayer

namespace Blueprint

open Line

/-- Held by the operations that only look at the map. -/
def goReadLock : List Line := ["m.mu.RLock()", "defer m.mu.RUnlock()"]

/-- Held by the operations that change the map. -/
def goWriteLock : List Line := ["m.mu.Lock()", "defer m.mu.Unlock()"]

/-- What an operation does to the map. -/
def goMockBody (b : Blueprint) : Operation → List Line
  | .findById =>
    sections
      [goReadLock, ["entity, ok := m.entities[id]"], braced "if !ok" ["return nil, nil"],
       ["return &entity, nil"]]
  | .findAll =>
    sections
      [goReadLock, [s!"result := make([]*{b.typeName}, 0, len(m.entities))"],
       braced "for _, entity := range m.entities"
         ["entity := entity", "result = append(result, &entity)"],
       ["return result, nil"]]
  | .create =>
    sections
      [goWriteLock,
       [s!"m.entities[entity.{b.key.name}] = *entity", s!"return entity.{b.key.name}, nil"]]
  | .update => sections [goWriteLock, ["m.entities[id] = *entity", "return nil"]]
  | .delete => sections [goWriteLock, ["delete(m.entities, id)", "return nil"]]

/-- An operation of the mock. Its request context is not looked at, so it has no name. -/
def goMockMethod (b : Blueprint) (op : Operation) : List Line :=
  block
    (Content.heads op s!"func (m *{b.symbol .mock}) " (goHead "_" b.typeName b.key.type op)
      " \x7b")
    (goMockBody b op) "\x7d"

/-- The mock over a map behind a reader-writer lock. -/
def goMock (b : Blueprint) : List Line :=
  let self := b.symbol .mock
  let mapType := s!"map[{b.key.type}]{b.typeName}"
  sections
    [b.opening "",
     b.importBlock [Content.imports "\"context\"", Content.imports "\"sync\""],
     [s!"// {self} is an in-memory {b.symbol .contract} keyed on {b.key.column}"],
     block (Content.declares "type " self " struct \x7b")
       ["mu       sync.RWMutex", s!"entities {mapType}"] "\x7d",
     ["", s!"var _ {b.symbol .contract} = (*{self})(nil)", "",
      s!"// New{self} returns an empty {self}"],
     block (Content.declares "func " s!"New{self}" s!"() *{self} \x7b")
       [s!"return &{self}\x7bentities: make({mapType})\x7d"] "\x7d",
     [""],
     [("" : Line)].intercalate (Operation.all.map (goMockMethod b))]

end Blueprint

end AccessLayer
