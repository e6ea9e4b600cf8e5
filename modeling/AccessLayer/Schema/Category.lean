import AccessLayer.Text.Blank
import AccessLayer.Text.Case

namespace AccessLayer

/-- What a column holds, whatever the spelling of its type. -/
inductive Category
  | text
  | integer
  | bigInteger
  | boolean
  | timestamp
  | uuid
  | json
  deriving DecidableEq, Repr

namespace Category

/-- The categories, in the order in which they are shown. -/
def all : List Category := [text, integer, bigInteger, boolean, timestamp, uuid, json]

/-- Every category is among them. -/
theorem mem_all (c : Category) : c ∈ all := by cases c <;> decide

/-- The name of a category. -/
def label : Category → String
  | text => "Text"
  | integer => "Integer"
  | bigInteger => "BigInteger"
  | boolean => "Boolean"
  | timestamp => "Timestamp"
  | uuid => "Uuid"
  | json => "Json"

/-- The type names that declare something other than text, with what they declare. -/
def declared : List (String × Category) :=
  [("TEXT", text), ("VARCHAR", text), ("INTEGER", integer), ("BIGINT", bigInteger),
   ("BOOLEAN", boolean), ("TIMESTAMP", timestamp), ("UUID", uuid), ("JSONB", json)]

/-- The part of a type token before its parameters, in upper case. -/
def baseName (token : List Char) : List Char :=
  Text.upperAscii (Text.trim (token.takeWhile (· != '(')))

/-- A type that is not known holds text. -/
def ofToken (token : List Char) : Category :=
  (declared.lookup (String.ofList (baseName token))).getD text

end Category

end AccessLayer
