import AccessLayer.Blueprint.Operation
import AccessLayer.Blueprint.Statement
import AccessLayer.Language.Expressions
import AccessLayer.Language.Names

namespace AccessLayer

/-- A column as a field of the generated model. -/
structure Field where
  column : String
  name : String
  /-- The field's type, made optional where the column may be absent. -/
  type : String
  nativeType : String
  label : String
  optional : Bool
  isKey : Bool
  category : Category
  /-- Reads the field from a row. -/
  read : String
  bind : String
  sample : String
  deriving DecidableEq, Repr

/-- Whether the field's name is not the column's, even when it is read without raw marks. -/
def Field.isRenamed (f : Field) : Bool := withoutRawMarks f.name.toList != f.column.toList
where
  /-- Drops every raw mark at the front. -/
  withoutRawMarks : List Char → List Char
    | 'r' :: '#' :: cs => withoutRawMarks cs
    | cs => cs

/-- The key as the operations see it. -/
structure Key where
  column : String
  name : String
  type : String
  read : String
  /-- The parameter for the key; no column has this name. -/
  param : String
  /-- Whether the key was declared by no column. -/
  assumed : Bool
  deriving DecidableEq, Repr

/-- An operation as a language declares it. -/
structure Declared where
  op : Operation
  name : String
  doc : String
  signature : String
  deriving DecidableEq, Repr

/-- The statements behind the operations, and the fields bound in them, in order. -/
structure Queries where
  findById : Statement
  findAll : Statement
  insert : Statement
  update : Statement
  delete : Statement
  insertFields : List Field
  /-- The fields that an update sets; the key's own parameter comes after them. -/
  updateFields : List Field
  deriving DecidableEq, Repr

/-- A table in one language. -/
structure Blueprint where
  language : Language
  table : String
  typeName : String
  service : String
  package : String
  fields : List Field
  key : Key
  operations : List Declared
  queries : Queries
  deriving DecidableEq, Repr

/-- The columns with the key among them: in its declared place, or in front when it is assumed. -/
def Table.keyedColumns (t : Table) : List Column :=
  let columns := t.columns.map fun c => if c.name = t.key.name then t.key else c
  if t.keyIsAssumed then t.key :: columns else columns

namespace Blueprint

/-- The field of a column in a table whose key is `keyColumn`. -/
def field (l : Language) (keyColumn : String) (c : Column) : Field where
  column := c.name
  name := l.fieldName c.name
  type := l.columnType c
  nativeType := l.nativeType c.category
  label := Name.label c.name
  optional := c.isOptional
  isKey := c.name == keyColumn
  category := c.category
  read := l.read c.category c.isOptional c.name
  bind := l.bind c.category c.isOptional (l.fieldName c.name)
  sample := l.sample c.category c.isOptional

/-- The preferred name of the key's parameter, followed by `n` underscores. -/
def paramName (n : Nat) : String := "entity_id" ++ String.ofList (List.replicate n '_')

/-- The first parameter name that no column has. Among more names than columns one is free. -/
def keyParam (columns : List String) : String :=
  paramName
    (((List.range (columns.length + 1)).find? fun n => !columns.contains (paramName n)).getD
      columns.length)

/-- Each field's column with the placeholder of its place. -/
def placed (l : Language) (fields : List Field) : List Match :=
  fields.zipIdx.map fun (f, i) => ⟨f.column, l.placeholder (i + 1) f.column⟩

/-- An update sets everything but the key, and the key when there is nothing else. -/
def updatable (fields : List Field) : List Field :=
  if fields.all (·.isKey) then fields.filter (·.isKey) else fields.filter (!·.isKey)

/-- The statements of a table with those fields and that key, and the fields that are passed to
    them. -/
def queriesOf (l : Language) (table : String) (fields : List Field) (key : Key) : Queries :=
  let byKey : Match := ⟨key.column, l.placeholder 1 key.param⟩
  let updated := updatable fields
  { findById := .select (fields.map (·.column)) table (some byKey)
    findAll := .select (fields.map (·.column)) table none
    insert := .insert table (placed l fields) key.column
    update := .update table (placed l updated)
      ⟨key.column, l.placeholder (updated.length + 1) key.param⟩
    delete := .delete table byKey
    insertFields := fields
    updateFields := updated }

/-- The key of a table as its operations see it, with a parameter that is the name of no column. -/
def keyOf (l : Language) (t : Table) (fields : List Field) : Key where
  column := t.key.name
  name := l.fieldName t.key.name
  type := l.columnType t.key
  read := ((fields.find? (·.isKey)).map (·.read)).getD ""
  param := keyParam (fields.map (·.column))
  assumed := t.keyIsAssumed

/-- The blueprint of a table for one language and one service. What the operations do is decided
    here once; an artifact only arranges it. -/
def ofTable (l : Language) (service : String) (t : Table) : Blueprint :=
  let fields := t.keyedColumns.map (field l t.key.name)
  let key := keyOf l t fields
  let typeName := Name.typeName t.name
  { language := l
    table := t.name
    typeName
    service
    package := l.packageName service
    fields
    key
    operations := Operation.all.map fun op =>
      ⟨op, l.operationName op, op.summary t.name, l.signature typeName key.type op⟩
    queries := queriesOf l t.name fields key }

/-- Whether a column of that category is among the fields. -/
def uses (b : Blueprint) (c : Category) : Bool := b.fields.any (·.category == c)

/-- Whether a field may be absent. -/
def usesOptional (b : Blueprint) : Bool := b.fields.any (·.optional)

/-- The fields that are no key. -/
def plainFields (b : Blueprint) : List Field := b.fields.filter (!·.isKey)

end Blueprint

end AccessLayer
