import AccessLayer.Artifact.Contract
import AccessLayer.Artifact.Mock.Cpp
import AccessLayer.Artifact.Mock.Go
import AccessLayer.Artifact.Mock.Python
import AccessLayer.Artifact.Mock.Rust
import AccessLayer.Artifact.Model
import AccessLayer.Artifact.Store.Cpp
import AccessLayer.Artifact.Store.Go
import AccessLayer.Artifact.Store.Python
import AccessLayer.Artifact.Store.Rust
import AccessLayer.Artifact.Wiring

namespace AccessLayer

/-- A generated file that is not yet written. -/
structure Artifact where
  table : String
  kind : Kind
  /-- Where the file goes below the output directory. -/
  path : Path
  contents : String
  deriving DecidableEq, Repr

namespace Blueprint

/-- The store of a table, in the style of its language. -/
def storeLines (b : Blueprint) : List Line :=
  match b.language with
  | .rust => rustStore b
  | .cpp => cppStore b
  | .python => pythonStore b
  | .go => goStore b

/-- The mock of a table, in the style of its language. -/
def mockLines (b : Blueprint) : List Line :=
  match b.language with
  | .rust => rustMock b
  | .cpp => cppMock b
  | .python => pythonMock b
  | .go => goMock b

/-- The lines of an artifact; `none` where the language does not make it. -/
def lines? (b : Blueprint) : Kind → Option (List Line)
  | .model => some (modelLines b)
  | .contract => some (contractLines b)
  | .store => some (storeLines b)
  | .mock => some (mockLines b)
  | .wiring => wiringLines? b

/-- The text of an artifact; `none` where the language does not make it. -/
def render? (b : Blueprint) (kind : Kind) : Option String :=
  (b.lines? kind).map (Line.render b.language)

end Blueprint

end AccessLayer
