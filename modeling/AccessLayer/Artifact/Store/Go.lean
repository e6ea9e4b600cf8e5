import AccessLayer.Artifact.Method
import AccessLayer.Source.Preamble

namespace AccessLayer

namespace Blueprint

open Line

/-- The constant that holds the statement of an operation. -/
def statementName (model : String) : Operation → String
  | .findById => "sqlFind" ++ model ++ "ByID"
  | .findAll => "sqlFindAll" ++ model
  | .create => "sqlInsert" ++ model
  | .update => "sqlUpdate" ++ model
  | .delete => "sqlDelete" ++ model

/-- A statement under its name, behind a gap that lines the statements up. -/
def goConstant (b : Blueprint) (op : Operation) (gap : String) (s : Statement) : Line :=
  Content.declares "" (statementName b.typeName op) s!"{gap}= `{s.text}`"

/-- A value on a line of its own. -/
def goEntry (value : String) : Line := Content.passes "" ⟨none, value⟩ ","

/-- The return of an error that says which operation failed. -/
def goFailed (results what : String) : Line :=
  s!"return {results}fmt.Errorf(\"{what}: %w\", err)"

/-- What an operation does with its statement. -/
def goBody (b : Blueprint) (op : Operation) : List Line :=
  let statement := statementName b.typeName op
  match op with
  | .findById =>
    sections
      [[s!"var entity {b.typeName}"],
       block
         (Content.passes s!"if err := d.db.GetContext(ctx, &entity, {statement}, " ⟨none, "id"⟩
           "); err != nil \x7b")
         (sections
           [braced "if errors.Is(err, sql.ErrNoRows)" ["return nil, nil"],
            [goFailed "nil, " s!"find {b.table} by id"]])
         "\x7d",
       ["return &entity, nil"]]
  | .findAll =>
    sections
      [[s!"var entities []{b.typeName}"],
       braced s!"if err := d.db.SelectContext(ctx, &entities, {statement}); err != nil"
         [goFailed "nil, " s!"find all {b.table}"],
       [s!"result := make([]*{b.typeName}, len(entities))"],
       braced "for i := range entities" ["result[i] = &entities[i]"],
       ["return result, nil"]]
  | .create =>
    sections
      [[s!"var id {b.key.type}"],
       block s!"err := d.db.QueryRowxContext(ctx, {statement},"
         (b.queries.insertFields.map fun f => goEntry f.bind) ").Scan(&id)",
       braced "if err != nil" [goFailed "id, " s!"create {b.table}"],
       ["return id, nil"]]
  | .update =>
    sections
      [block s!"_, err := d.db.ExecContext(ctx, {statement},"
         (sections [b.queries.updateFields.map fun f => goEntry f.bind, [goEntry "id"]]) ")",
       braced "if err != nil" [goFailed "" s!"update {b.table}"],
       ["return nil"]]
  | .delete =>
    sections
      [block
         (Content.passes s!"if _, err := d.db.ExecContext(ctx, {statement}, " ⟨none, "id"⟩
           "); err != nil \x7b")
         [goFailed "" s!"delete {b.table}"] "\x7d",
       ["return nil"]]

/-- An operation of the store, with its receiver, its head and its body. -/
def goStoreMethod (b : Blueprint) (op : Operation) : List Line :=
  block
    (Content.heads op s!"func (d *{b.symbol .store}) " (goHead "ctx" b.typeName b.key.type op)
      " \x7b")
    (goBody b op) "\x7d"

/-- The store in a package that several tables share: every top-level name carries the name of the
    table's type. -/
def goStore (b : Blueprint) : List Line :=
  sections
    [b.opening "",
     b.importBlock
       [Content.imports "\"context\"", Content.imports "\"database/sql\"",
        Content.imports "\"errors\"", Content.imports "\"fmt\"", "",
        Content.imports "\"github.com/jmoiron/sqlx\""],
     block "const ("
       [goConstant b .findById " " b.queries.findById, goConstant b .findAll "  " b.queries.findAll,
        goConstant b .create "   " b.queries.insert, goConstant b .update "   " b.queries.update,
        goConstant b .delete "   " b.queries.delete]
       ")",
     [""],
     block (Content.declares "type " (b.symbol .store) " struct \x7b") ["db *sqlx.DB"] "\x7d",
     ["", s!"// NewPg{b.symbol .contract} returns a {b.symbol .contract} backed by PostgreSQL"],
     block
       (Content.declares "func " s!"NewPg{b.symbol .contract}"
         s!"(db *sqlx.DB) {b.symbol .contract} \x7b")
       [s!"return &{b.symbol .store}\x7bdb: db\x7d"] "\x7d",
     [""],
     [("" : Line)].intercalate (Operation.all.map (goStoreMethod b))]

end Blueprint

end AccessLayer
