import AccessLayer.Text.Blank
import AccessLayer.Text.Case

namespace AccessLayer

/-- The languages that artifacts are made for. -/
inductive Language
  | rust
  | cpp
  | python
  | go
  deriving DecidableEq, Repr

namespace Language

/-- The languages, in the order in which they are shown. -/
def all : List Language := [rust, cpp, python, go]

/-- Every language is among them. -/
theorem mem_all (l : Language) : l ∈ all := by cases l <;> decide

/-- The name under which a language is shown. -/
def name : Language → String
  | rust => "rust"
  | cpp => "cpp"
  | python => "python"
  | go => "go"

/-- How the names of files end. -/
def extension : Language → String
  | rust => "rs"
  | cpp => "hpp"
  | python => "py"
  | go => "go"

/-- The names and the aliases under which languages are asked for. -/
def spellings : List (String × Language) :=
  [("rust", rust), ("rs", rust), ("cpp", cpp), ("c++", cpp), ("python", python), ("py", python),
   ("go", go), ("golang", go)]

/-- The language that is asked for. Blanks at the ends and the case of ASCII letters do not
    matter. -/
def ofName? (asked : String) : Option Language :=
  spellings.lookup (String.ofList (Text.lowerAscii (Text.trim asked.toList)))

end Language

end AccessLayer
