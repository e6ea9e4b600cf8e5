import AccessLayer.Source.Preamble

namespace AccessLayer

namespace Blueprint

open Line

/-- The module of a table, which knows the other files and exports their main declarations. -/
def rustWiring (b : Blueprint) : List Line :=
  let owned (kind : Kind) : Line :=
    Content.refers kind "pub mod " (b.language.moduleName kind) none ";"
  let exported (kind : Kind) : Line :=
    Content.refers kind "pub use " (b.language.moduleName kind) (some ("::", b.symbol kind)) ";"
  sections
    [b.opening s!"`{b.table}` data access module",
     [owned .contract, owned .mock, owned .model, owned .store, "", exported .contract,
      exported .mock, exported .model, exported .store]]

/-- The package of a table, which exports the main declarations of its modules. -/
def pythonWiring (b : Blueprint) : List Line :=
  sections
    [b.opening s!"`{b.table}` data access package",
     [b.useSibling .contract, b.useSibling .mock, b.useSibling .model, b.useSibling .store, ""],
     block "__all__ = ["
       ([Kind.model, .contract, .store, .mock].map fun kind => (s!"\"{b.symbol kind}\"," : Line))
       "]"]

/-- The wiring of a table, in the languages in which its files have to be made known. -/
def wiringLines? (b : Blueprint) : Option (List Line) :=
  match b.language with
  | .rust => some (rustWiring b)
  | .python => some (pythonWiring b)
  | .cpp | .go => none

end Blueprint

end AccessLayer
