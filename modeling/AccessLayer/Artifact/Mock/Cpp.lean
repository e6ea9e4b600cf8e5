import AccessLayer.Artifact.Method
import AccessLayer.Source.Preamble

namespace AccessLayer

namespace Blueprint

open Line

/-- Every operation of the mock holds the lock from its first line on. -/
def cppGuard : Line := "std::lock_guard<std::mutex> lock(mutex_);"

/-- What an operation does to the map, with its result as a future that is there already. -/
def cppMockBody (b : Blueprint) : Operation → List Line
  | .findById =>
    sections
      [[cppGuard, "auto it = entities_.find(id);"],
       braced "if (it == entities_.end())"
         [s!"return ready(std::optional<models::{b.typeName}>());"],
       ["return ready(std::make_optional(it->second));"]]
  | .findAll =>
    sections
      [[cppGuard, s!"std::vector<models::{b.typeName}> entities;",
        "entities.reserve(entities_.size());"],
       braced "for (const auto& entry : entities_)" ["entities.push_back(entry.second);"],
       ["return ready(std::move(entities));"]]
  | .create =>
    [cppGuard, s!"entities_[entity.{b.key.name}] = entity;",
     s!"return ready(entity.{b.key.name});"]
  | .update => [cppGuard, "entities_[id] = entity;", "return ready();"]
  | .delete => [cppGuard, "entities_.erase(id);", "return ready();"]

/-- An operation of the mock, with its head and its body. -/
def cppMockMethod (b : Blueprint) (op : Operation) : List Line :=
  block (Content.heads op "" (cppHead b.typeName b.key.type op) " override \x7b")
    (cppMockBody b op) "\x7d"

/-- Values as results that are already there. -/
def cppReady : List Line :=
  sections
    [["template <typename T>"],
     braced "static std::future<T> ready(T value)"
       ["std::promise<T> promise;", "promise.set_value(std::move(value));",
        "return promise.get_future();"],
     [""],
     braced "static std::future<void> ready()"
       ["std::promise<void> promise;", "promise.set_value();", "return promise.get_future();"]]

/-- The mock over an ordered map behind a lock. -/
def cppMock (b : Blueprint) : List Line :=
  let self := b.symbol .mock
  sections
    [b.opening s!"In-memory `{b.symbol .contract}` for tests",
     [b.includeSibling .contract, "", Content.imports "#include <map>",
      Content.imports "#include <mutex>", "", "namespace dao \x7b", "",
      s!"/// `{b.symbol .contract}` backed by a map keyed on `{b.key.column}`",
      Content.declares "class " self s!" : public {b.symbol .contract} \x7b", "public:"],
     indent
      (sections
        [[s!"{self}() = default;", ""],
         braced s!"explicit {self}(const std::vector<models::{b.typeName}>& entities)"
           (braced "for (const auto& entity : entities)"
             [s!"entities_[entity.{b.key.name}] = entity;"]),
         [""],
         [("" : Line)].intercalate (Operation.all.map (cppMockMethod b))]),
     ["", "private:"],
     indent
      (sections
        [cppReady,
         ["", s!"std::map<{b.key.type}, models::{b.typeName}> entities_;",
          "std::mutex mutex_;"]]),
     ["\x7d;", "", "\x7d  // namespace dao"]]

end Blueprint

end AccessLayer
