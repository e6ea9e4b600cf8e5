
namespace AccessLayer

/-- The condition that a column has the value of a parameter. -/
structure Match where
  column : String
  placeholder : String
  deriving DecidableEq, Repr

/-- The column and its placeholder, with a sign between them that sets or compares. -/
def Match.text (m : Match) : String := m.column ++ " = " ++ m.placeholder

/-- A statement about the rows of one table. -/
inductive Statement
  | select (columns : List String) (table : String) (filter : Option Match)
  | insert (table : String) (values : List Match) (returning : String)
  | update (table : String) (assignments : List Match) (filter : Match)
  | delete (table : String) (filter : Match)
  deriving DecidableEq, Repr

namespace Statement

/-- The statement as it is printed. Until then it is kept as data, so that columns, placeholders and
    bound values can be compared. -/
def text : Statement → String
  | select columns table filter =>
    "SELECT " ++ ", ".intercalate columns ++ " FROM " ++ table ++
      match filter with
      | some m => " WHERE " ++ m.text
      | none => ""
  | insert table values returning =>
    "INSERT INTO " ++ table ++ " (" ++ ", ".intercalate (values.map (·.column)) ++ ") VALUES (" ++
      ", ".intercalate (values.map (·.placeholder)) ++ ") RETURNING " ++ returning
  | update table assignments filter =>
    "UPDATE " ++ table ++ " SET " ++ ", ".intercalate (assignments.map (·.text)) ++ " WHERE " ++
      filter.text
  | delete table filter => "DELETE FROM " ++ table ++ " WHERE " ++ filter.text

end Statement

end AccessLayer
