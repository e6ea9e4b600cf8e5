import AccessLayer.Schema.Table

namespace AccessLayer

/-- A trimmed piece of a column section. It ends at a line break or at a comma outside parentheses;
    what follows `--` on a line is dropped. -/
abbrev Fragment := List Char

namespace Fragment

open Text

/-- The part of a line before the first `--`. -/
def beforeComment : List Char → List Char
  | [] => []
  | c :: cs =>
    match c, cs with
    | '-', '-' :: _ => []
    | _, _ => c :: beforeComment cs

/-- How deep in parentheses one is after `c`. A parenthesis that closes none is let through. -/
def depthAfter (depth : Nat) (c : Char) : Nat :=
  if c = '(' then depth + 1 else if c = ')' then depth - 1 else depth

/-- Cuts a line at the commas outside parentheses. -/
def cut (depth : Nat) : List Char → List (List Char)
  | [] => [[]]
  | c :: cs =>
    if c = ',' ∧ depth = 0 then [] :: cut 0 cs else extendFirst c (cut (depthAfter depth c) cs)

/-- The fragments of one line without its comment, untrimmed. -/
def ofLine (line : List Char) : List (List Char) := cut 0 (beforeComment line)

/-- The fragments of a column section. A carriage return before a line feed is blank and is trimmed
    with the rest. -/
def ofBody (body : List Char) : List Fragment :=
  (((pieces (· == '\n') body).flatMap ofLine).map trim).filter fun f => !f.isEmpty

/-- Whether a fragment is a clause about the whole table: `CONSTRAINT`, `UNIQUE`, `CHECK`, `PRIMARY
    KEY` or `FOREIGN KEY`. -/
def isTableClause (f : Fragment) : Bool :=
  match (solidPieces (fun c => isBlank c || c == '(') f).map (String.ofList ∘ upperAscii) with
  | "CONSTRAINT" :: _ | "UNIQUE" :: _ | "CHECK" :: _ => true
  | "PRIMARY" :: "KEY" :: _ | "FOREIGN" :: "KEY" :: _ => true
  | _ => false

/-- Whether `first` stands directly before `second`. -/
def hasPair (first second : String) : List String → Bool
  | a :: b :: rest => (a == first && b == second) || hasPair first second (b :: rest)
  | _ => false

/-- The word after the first `REFERENCES`. -/
def target? (markers : List (List Char)) : Option (List Char) :=
  (markers.dropWhile fun m => String.ofList (upperAscii m) != "REFERENCES").tail.head?

/-- A column is a name, a type and markers in any order. One word alone declares nothing. -/
def column? (f : Fragment) : Option Column :=
  match words (dropEnd (· == ',') f) with
  | name :: type :: markers =>
    let upperMarkers := markers.map (String.ofList ∘ upperAscii)
    some {
      name := String.ofList name
      category := .ofToken type
      nullable := !hasPair "NOT" "NULL" upperMarkers
      marked := hasPair "PRIMARY" "KEY" upperMarkers
      reference := (target? markers).map String.ofList }
  | _ => none

/-- The column that a fragment declares, unless it is a clause about the table. -/
def declaration? (f : Fragment) : Option Column := if isTableClause f then none else column? f

end Fragment

end AccessLayer
