import AccessLayer.Artifact.Method
import AccessLayer.Source.Preamble

namespace AccessLayer

namespace Blueprint

open Line

/-- Every task holds the lock of the shared connection and begins a transaction. -/
def cppLockAndBegin : List Line :=
  ["std::lock_guard<std::mutex> lock(mutex_);", "pqxx::work txn(*connection_);"]

/-- The transaction of a task ends well. -/
def cppCommit : Line := "txn.commit();"

/-- A call that passes the arguments on lines of their own, as far in as its closing mark. -/
def cppCall (opening : String) (values : List String) : List Line :=
  sections
    [[s!"{opening},"],
     indent
      (values.dropLast.map fun v => (Content.passes "" ⟨none, v⟩ "," : Line)),
     indent (values.getLast?.toList.map fun v => (Content.passes "" ⟨none, v⟩ ");" : Line))]

/-- The values that a closure keeps and, where it is not plain, its result. -/
def cppClosure (captured : String) (result : Option String) : String :=
  s!"return std::async(std::launch::async, [{captured}]()" ++
    (match result with
     | some t => s!" -> {t}"
     | none => "") ++
    " \x7b"

/-- What an operation does, as a task of its own. The values of a statement stand behind its
    name. -/
def cppTask (b : Blueprint) : Operation → List Line
  | .findById =>
    sections
      [[cppClosure "this, id" (some s!"std::optional<models::{b.typeName}>")],
       indent
        (sections
          [cppLockAndBegin,
           [Content.passes "pqxx::result result = txn.exec_params(FIND_BY_ID, " ⟨none, "id"⟩ ");",
            cppCommit],
           braced "if (result.empty())" ["return std::nullopt;"],
           ["return row_to_entity(result[0]);"]])]
  | .findAll =>
    sections
      [[cppClosure "this" none],
       indent
        (sections
          [cppLockAndBegin,
           ["pqxx::result result = txn.exec(FIND_ALL);", cppCommit,
            s!"std::vector<models::{b.typeName}> entities;", "entities.reserve(result.size());"],
           braced "for (const auto& row : result)" ["entities.push_back(row_to_entity(row));"],
           ["return entities;"]])]
  | .create =>
    sections
      [[cppClosure "this, entity" (some b.key.type)],
       indent
        (sections
          [cppLockAndBegin,
           cppCall "pqxx::result result = txn.exec_params(INSERT"
             (b.queries.insertFields.map (·.bind)),
           [cppCommit, "const auto row = result[0];", s!"return {b.key.read};"]])]
  | .update =>
    sections
      [[cppClosure "this, id, entity" none],
       indent
        (sections
          [cppLockAndBegin,
           cppCall "txn.exec_params(UPDATE" (b.queries.updateFields.map (·.bind) ++ ["id"]),
           [cppCommit]])]
  | .delete =>
    sections
      [[cppClosure "this, id" none],
       indent
        (sections
          [cppLockAndBegin,
           [Content.passes "txn.exec_params(DELETE, " ⟨none, "id"⟩ ");", cppCommit]])]

/-- An operation of the store, with its head and its task. -/
def cppStoreMethod (b : Blueprint) (op : Operation) : List Line :=
  block (Content.heads op "" (cppHead b.typeName b.key.type op) " override \x7b")
    (sections [cppTask b op, ["\x7d);"]]) "\x7d"

/-- Conversions between timestamps and their text, which several stores may define together. -/
def timestampHelpers : List Line :=
  sections
    [["", "#ifndef DAOGEN_PG_TIMESTAMP_HELPERS", "#define DAOGEN_PG_TIMESTAMP_HELPERS",
      "namespace detail \x7b", ""],
     braced "inline std::chrono::system_clock::time_point parse_timestamp(const std::string& text)"
       ["std::tm tm = \x7b\x7d;", "std::istringstream in(text);",
        "in >> std::get_time(&tm, \"%Y-%m-%d %H:%M:%S\");",
        "return std::chrono::system_clock::from_time_t(timegm(&tm));"],
     [""],
     braced "inline std::string format_timestamp(std::chrono::system_clock::time_point tp)"
       ["std::time_t t = std::chrono::system_clock::to_time_t(tp);", "std::tm tm = \x7b\x7d;",
        "gmtime_r(&t, &tm);", "std::ostringstream out;",
        "out << std::put_time(&tm, \"%Y-%m-%d %H:%M:%S\");", "return out.str();"],
     ["", "\x7d  // namespace detail", "#endif"]]

/-- A statement under its name. -/
def cppConstant (name : String) (s : Statement) : Line :=
  s!"static constexpr const char* {name} = \"{s.text}\";"

/-- The store over one shared connection, which a lock guards. -/
def cppStore (b : Blueprint) : List Line :=
  sections
    [b.opening s!"PostgreSQL `{b.symbol .contract}`",
     [b.includeSibling .contract, "", Content.imports "#include <memory>",
      Content.imports "#include <mutex>", Content.imports "#include <pqxx/pqxx>"],
     onlyIf (b.uses .timestamp)
       [Content.imports "#include <ctime>", Content.imports "#include <iomanip>",
        Content.imports "#include <sstream>"],
     ["", "namespace dao \x7b"],
     onlyIf (b.uses .timestamp) timestampHelpers,
     ["", s!"/// `{b.symbol .contract}` over a shared libpqxx connection",
      Content.declares "class " (b.symbol .store) s!" : public {b.symbol .contract} \x7b",
      "public:"],
     indent
      (sections
        [[s!"explicit {b.symbol .store}(std::shared_ptr<pqxx::connection> connection)"],
         indent [": connection_(std::move(connection)) \x7b\x7d"],
         [""],
         [("" : Line)].intercalate (Operation.all.map (cppStoreMethod b))]),
     ["", "private:"],
     indent
      (sections
        [[cppConstant "FIND_BY_ID" b.queries.findById, cppConstant "FIND_ALL" b.queries.findAll,
          cppConstant "INSERT" b.queries.insert, cppConstant "UPDATE" b.queries.update,
          cppConstant "DELETE" b.queries.delete, ""],
         braced s!"static models::{b.typeName} row_to_entity(const pqxx::row& row)"
           (sections
             [[s!"models::{b.typeName} entity;"],
              b.fields.map fun f => (s!"entity.{f.name} = {f.read};" : Line),
              ["return entity;"]]),
         ["", "std::shared_ptr<pqxx::connection> connection_;", "std::mutex mutex_;"]]),
     ["\x7d;", "", "\x7d  // namespace dao"]]

end Blueprint

end AccessLayer
