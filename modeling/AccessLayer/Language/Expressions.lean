import AccessLayer.Language.Types

namespace AccessLayer

namespace Language

/-- A row's value of a category, read from its text where the driver gives no native value. -/
def cppValue (category : Category) (column : String) : String :=
  let cell := "row[\"" ++ column ++ "\"]"
  match category with
  | .text | .uuid => cell ++ ".as<std::string>()"
  | .integer => cell ++ ".as<int>()"
  | .bigInteger => cell ++ ".as<int64_t>()"
  | .boolean => cell ++ ".as<bool>()"
  | .timestamp => "detail::parse_timestamp(" ++ cell ++ ".as<std::string>())"
  | .json => "nlohmann::json::parse(" ++ cell ++ ".as<std::string>())"

/-- The expression that reads a column from a row; empty where the rows are read as a whole. An
    absent value is tolerated exactly where the field is optional. -/
def read (l : Language) (category : Category) (optional : Bool) (column : String) : String :=
  match l with
  | rust =>
    "row.try_get(\"" ++ column ++ "\")" ++ if optional then ".ok().flatten()" else "?"
  | cpp =>
    if optional then
      "row[\"" ++ column ++ "\"].is_null() ? std::nullopt : std::make_optional(" ++
        cppValue category column ++ ")"
    else cppValue category column
  | python =>
    if optional then "mapping.get(\"" ++ column ++ "\")" else "mapping[\"" ++ column ++ "\"]"
  | go => ""

/-- The text in which a value is passed, for categories that are not passed as they are. -/
def cppConverted? (category : Category) (value : String) : Option String :=
  match category with
  | .timestamp => some ("detail::format_timestamp(" ++ value ++ ")")
  | .json => some (value ++ ".dump()")
  | _ => none

/-- The expression that passes a field of `entity` as a parameter. -/
def bind (l : Language) (category : Category) (optional : Bool) (field : String) : String :=
  let member := "entity." ++ field
  match l with
  | rust => "&" ++ member
  | cpp =>
    if optional then
      match cppConverted? category (member ++ ".value()") with
      | some converted =>
        member ++ " ? std::optional<std::string>(" ++ converted ++ ") : std::nullopt"
      | none => member
    else (cppConverted? category member).getD member
  | python | go => member

/-- A value of a category that is always there. -/
def sampleValue : Category → String
  | .text => "\"sample\".to_string()"
  | .integer | .bigInteger => "42"
  | .boolean => "true"
  | .timestamp => "Utc::now()"
  | .uuid => "Uuid::new_v4()"
  | .json => "serde_json::json!(\x7b \"sample\": true \x7d)"

/-- The value of a field in generated tests; empty where no tests are generated. -/
def sample (l : Language) (category : Category) (optional : Bool) : String :=
  match l with
  | rust => if optional then "Some(" ++ sampleValue category ++ ")" else sampleValue category
  | _ => ""

/-- The placeholder of the `index`-th parameter, counted from one, which is called `name`. -/
def placeholder (l : Language) (index : Nat) (name : String) : String :=
  match l with
  | python => ":" ++ name
  | _ => "$" ++ Nat.repr index

end Language

end AccessLayer
