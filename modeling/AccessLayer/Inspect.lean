import AccessLayer.Inspect.Json
import AccessLayer.Inspect.Plain
import AccessLayer.Inspect.Yaml
import AccessLayer.Registry

namespace AccessLayer

/-- How tables can be shown. -/
inductive Format
  | text
  | json
  | yaml
  deriving DecidableEq, Repr

namespace Format

/-- The name under which a format is asked for. -/
def name : Format → String
  | text => "text"
  | json => "json"
  | yaml => "yaml"

/-- The format with a name, in exactly this case. -/
def ofName? (asked : String) : Option Format := [text, json, yaml].find? fun f => f.name == asked

end Format

/-- Tables, shown without making anything of them. -/
def inspect (format : Format) (tables : List Table) : String :=
  match format with
  | .text => Plain.render tables
  | .json => Json.render (tables.map .ofTable)
  | .yaml => Yaml.render (tables.map .ofTable)

/-- A language with its type for each category. -/
def Language.description (l : Language) : String :=
  l.name ++ " (." ++ l.extension ++ ", nullable: " ++ l.optionalOf "T" ++ ", package: " ++
    l.packageName "my-service" ++ ")\n" ++
    String.join
      (Category.all.map fun c => "  " ++ Text.padEnd 12 c.label ++ " " ++ l.nativeType c ++ "\n")

/-- The languages of a registry, each with its types. -/
def Registry.description (r : Registry) : String :=
  String.join (r.languages.map (·.description))

end AccessLayer
