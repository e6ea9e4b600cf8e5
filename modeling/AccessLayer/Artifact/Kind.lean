import AccessLayer.Files.Path
import AccessLayer.Language

namespace AccessLayer

/-- What a generated file is for. -/
inductive Kind
  | model
  | contract
  | store
  | mock
  | wiring
  deriving DecidableEq, Repr

namespace Kind

/-- The kinds, in the order in which they are emitted. -/
def all : List Kind := [model, contract, store, mock, wiring]

/-- Every kind is among them. -/
theorem mem_all (k : Kind) : k ∈ all := by cases k <;> decide

/-- How a kind is called in messages. -/
def label : Kind → String
  | model => "model"
  | contract => "dao contract"
  | store => "store impl"
  | mock => "mock"
  | wiring => "wiring"

end Kind

namespace Language

/-- The name of the module that holds a kind, in the languages with a folder per table. -/
def moduleName : Language → Kind → String
  | python, .model => "models"
  | python, .contract => "dao"
  | python, .store => "sqlalchemy_dao"
  | python, .mock => "mock_dao"
  | python, .wiring => "__init__"
  | _, .model => "model"
  | _, .contract => "dao"
  | _, .store => "pg_dao"
  | _, .mock => "mock_dao"
  | _, .wiring => "mod"

/-- The name of the file that holds a kind, in the languages with a file name per table and no
    wiring. -/
def fileName? (l : Language) (table : String) : Kind → Option String
  | .model => some (table ++ "." ++ l.extension)
  | .contract => some (table ++ "_dao." ++ l.extension)
  | .store => some ("pg_" ++ table ++ "_dao." ++ l.extension)
  | .mock => some ("mock_" ++ table ++ "_dao." ++ l.extension)
  | .wiring => none

/-- The folder of a kind, in the language that separates models from the code that uses them. -/
def headerFolder : Kind → String
  | .model => "models"
  | _ => "dao"

/-- Where an artifact is kept below the output directory; `none` where it is not made. -/
def artifactPath? (l : Language) (table : String) (kind : Kind) : Option Path :=
  match l with
  | rust =>
    some (Path.join (Path.join ⟨"model"⟩ ⟨table⟩) ⟨l.moduleName kind ++ "." ++ l.extension⟩)
  | python => some (Path.join ⟨table⟩ ⟨l.moduleName kind ++ "." ++ l.extension⟩)
  | cpp =>
    (l.fileName? table kind).map fun file => Path.join ⟨headerFolder kind⟩ ⟨file⟩
  | go => (l.fileName? table kind).map fun file => ⟨file⟩

/-- The main declaration of a kind for entities of type `model`. -/
def symbol (l : Language) (model : String) : Kind → String
  | .model => model
  | .contract =>
    match l with
    | rust => model ++ "Dao"
    | _ => model ++ "DAO"
  | .store =>
    match l with
    | rust => "Pg" ++ model ++ "Dao"
    | cpp => "Pg" ++ model ++ "DAO"
    | python => "SQLAlchemy" ++ model ++ "DAO"
    | go => "pg" ++ model ++ "DAO"
  | .mock =>
    match l with
    | rust => "Mock" ++ model ++ "Dao"
    | _ => "Mock" ++ model ++ "DAO"
  | .wiring => ""

end Language

end AccessLayer
