import AccessLayer.Language
import AccessLayer.Schema.Table

namespace AccessLayer

namespace Language

/-- The type that a language has for a category. -/
def nativeType : Language → Category → String
  | rust, .text => "String"
  | rust, .integer => "i32"
  | rust, .bigInteger => "i64"
  | rust, .boolean => "bool"
  | rust, .timestamp => "DateTime<Utc>"
  | rust, .uuid => "Uuid"
  | rust, .json => "serde_json::Value"
  | cpp, .text => "std::string"
  | cpp, .integer => "int"
  | cpp, .bigInteger => "int64_t"
  | cpp, .boolean => "bool"
  | cpp, .timestamp => "std::chrono::system_clock::time_point"
  | cpp, .uuid => "std::string"
  | cpp, .json => "nlohmann::json"
  | python, .text => "str"
  | python, .integer => "int"
  | python, .bigInteger => "int"
  | python, .boolean => "bool"
  | python, .timestamp => "datetime"
  | python, .uuid => "UUID"
  | python, .json => "dict"
  | go, .text => "string"
  | go, .integer => "int"
  | go, .bigInteger => "int64"
  | go, .boolean => "bool"
  | go, .timestamp => "time.Time"
  | go, .uuid => "uuid.UUID"
  | go, .json => "map[string]interface\x7b\x7d"

/-- The type of what may be absent, from the type of what is there. -/
def optionalOf : Language → String → String
  | rust, t => "Option<" ++ t ++ ">"
  | cpp, t => "std::optional<" ++ t ++ ">"
  | python, t => "Optional[" ++ t ++ "]"
  | go, t => "*" ++ t

/-- The type of a column's field, which may be absent where the column may be null. -/
def columnType (l : Language) (c : Column) : String :=
  if c.isOptional then l.optionalOf (l.nativeType c.category) else l.nativeType c.category

end Language

end AccessLayer
