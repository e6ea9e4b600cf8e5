import AccessLayer.Artifact.Kind
import AccessLayer.Blueprint.Operation

namespace AccessLayer

/-- A value that is passed to a statement, under the name of the parameter that it fills where
    parameters are named. -/
structure Argument where
  param : Option String
  value : String
  deriving DecidableEq, Repr

/-- An argument as it stands in the source. -/
def Argument.text (a : Argument) : String :=
  match a.param with
  | some p => "\"" ++ p ++ "\": " ++ a.value
  | none => a.value

/-- What stands on one line. Every part but the plain text is named for what it does. So artifacts
    can be compared without reading their text back. -/
inductive Content
  | text (s : String)
  /-- Makes a library known to the file. -/
  | imports (s : String)
  /-- Refers to the artifact `kind` of the same table, which is spelled `place`, and to its
      declaration `symbol`. -/
  | refers (kind : Kind) (lead place : String) (symbol : Option (String × String)) (trail : String)
  | declares (lead name trail : String)
  /-- Starts the declaration or the body of an operation. -/
  | heads (op : Operation) (lead signature trail : String)
  /-- Passes a value to the statement at hand. -/
  | passes (lead : String) (argument : Argument) (trail : String)
  deriving DecidableEq, Repr

/-- The text on the line, whatever it is for. -/
def Content.written : Content → String
  | text s => s
  | imports s => s
  | refers _ lead place none trail => lead ++ place ++ trail
  | refers _ lead place (some (joint, symbol)) trail => lead ++ place ++ joint ++ symbol ++ trail
  | declares lead name trail => lead ++ name ++ trail
  | heads _ lead signature trail => lead ++ signature ++ trail
  | passes lead argument trail => lead ++ argument.text ++ trail

/-- A line, indented by `depth` steps. -/
structure Line where
  depth : Nat
  content : Content
  deriving DecidableEq, Repr

instance : Coe Content Line := ⟨fun c => ⟨0, c⟩⟩

instance : Coe String Line := ⟨fun s => ⟨0, .text s⟩⟩

namespace Line

/-- Lines one step further in. -/
def indent (ls : List Line) : List Line := ls.map fun l => { l with depth := l.depth + 1 }

/-- Lines between a head and a foot, one step further in. -/
def block (head : Line) (body : List Line) (foot : Line) : List Line :=
  head :: indent body ++ [foot]

/-- Lines between braces, the opening one at the end of the head. -/
def braced (head : String) (body : List Line) : List Line :=
  block ↑(head ++ " \x7b") body "\x7d"

/-- Groups of lines, one below the other. -/
def sections (groups : List (List Line)) : List Line := groups.flatten

/-- Lines that are there under a condition. -/
def onlyIf (condition : Bool) (ls : List Line) : List Line := if condition then ls else []

/-- How far in one step is. -/
def step : Language → String
  | .go => "\t"
  | _ => "    "

/-- The line as it is written; an empty line is not indented. -/
def written (l : Language) (line : Line) : String :=
  let s := line.content.written
  if s.isEmpty then "" else String.join (List.replicate line.depth (step l)) ++ s

/-- The lines joined by line feeds, without one at the end. -/
def render (l : Language) (ls : List Line) : String := "\n".intercalate (ls.map (written l))

/-- The values passed in some lines, in order. -/
def arguments (ls : List Line) : List Argument :=
  ls.filterMap fun l =>
    match l.content with
    | .passes _ a _ => some a
    | _ => none

/-- The operations that some lines start, with their signatures. -/
def heads (ls : List Line) : List (Operation × String) :=
  ls.filterMap fun l =>
    match l.content with
    | .heads op _ signature _ => some (op, signature)
    | _ => none

/-- The names that some lines declare. -/
def declared (ls : List Line) : List String :=
  ls.filterMap fun l =>
    match l.content with
    | .declares _ name _ => some name
    | _ => none

end Line

end AccessLayer
