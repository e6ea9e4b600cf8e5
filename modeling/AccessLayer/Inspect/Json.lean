import AccessLayer.Inspect.View

namespace AccessLayer

namespace Json

/-- The digit of a number below sixteen. -/
def hexDigit (n : Nat) : Char := "0123456789abcdef".toList.getD n '0'

/-- A character inside quotes. Only the quote, the backslash and control characters are escaped. -/
def escaped (c : Char) : List Char :=
  if c = '"' then ['\\', '"']
  else if c = '\\' then ['\\', '\\']
  else if c = Char.ofNat 8 then ['\\', 'b']
  else if c = Char.ofNat 12 then ['\\', 'f']
  else if c = '\n' then ['\\', 'n']
  else if c = '\r' then ['\\', 'r']
  else if c = '\t' then ['\\', 't']
  else if c.toNat < 32 then
    ['\\', 'u', '0', '0', hexDigit (c.toNat / 16), hexDigit (c.toNat % 16)]
  else [c]

/-- A text between quotes, with the characters escaped that cannot stand there. -/
def quoted (s : String) : String :=
  String.ofList ('"' :: s.toList.flatMap escaped ++ ['"'])

/-- A scalar as it stands in a document. -/
def scalar : Scalar → String
  | .null => "null"
  | .bool true => "true"
  | .bool false => "false"
  | .text s => quoted s

/-- A line that is indented by `depth` steps. -/
def line (depth : Nat) (s : String) : String := String.ofList (List.replicate (2 * depth) ' ') ++ s

/-- Puts a comma after every group of lines but the last. -/
def separated : List (List String) → List String
  | [] => []
  | [last] => last
  | group :: rest => group.dropLast ++ (group.getLast?.map (· ++ ",")).toList ++ separated rest

/-- The members of an object, each on a line of its own. -/
def members (depth : Nat) (r : Record) : List (List String) :=
  r.map fun (name, value) => [line depth (quoted name ++ ": " ++ scalar value)]

/-- An object from the lines of its members. -/
def object (depth : Nat) (parts : List (List String)) : List String :=
  line depth "\x7b" :: separated parts ++ [line depth "\x7d"]

/-- The lines of a table. -/
def table (v : TableView) : List String :=
  let columns :=
    if v.columns.isEmpty then [line 2 "\"columns\": []"]
    else
      line 2 "\"columns\": [" :: separated (v.columns.map fun c => object 3 (members 4 c)) ++
        [line 2 "]"]
  object 1 (members 2 v.facts ++ [columns])

/-- The document, which ends in a line feed. -/
def render (views : List TableView) : String :=
  if views.isEmpty then "[]\n"
  else "\n".intercalate ("[" :: separated (views.map table) ++ ["]"]) ++ "\n"

end Json

end AccessLayer
