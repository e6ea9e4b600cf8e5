import AccessLayer.Language.Keywords

namespace AccessLayer

namespace Name

open Text

/-- The words between underscores, each capitalized, without the underscores. -/
def typeChars (cs : List Char) : List Char := (pieces (· == '_') cs).flatMap capitalize

/-- The name of the type for the rows of a table: `user_profiles` gives `UserProfiles`. -/
def typeName (name : String) : String := String.ofList (typeChars name.toList)

/-- The name as a heading: `created_at` gives `Created At`. -/
def label (name : String) : String :=
  " ".intercalate
    ((solidPieces (· == '_') name.toList).map fun w => String.ofList (capitalize w))

end Name

namespace Language

/-- The name of a column's field. Where fields are exported they are named like types; elsewhere
    they keep the column's name unless it is reserved. -/
def fieldName : Language → String → String
  | rust, c =>
    if (suffixedKeywords rust).contains c then c ++ "_"
    else if rawKeywords.contains c then "r#" ++ c
    else c
  | go, c => Name.typeName c
  | l, c => if (suffixedKeywords l).contains c then c ++ "_" else c

/-- The name of a service's package, in lower case and without hyphens. -/
def packageName (l : Language) (service : String) : String :=
  let lowered := Text.lower service.toList
  match l with
  | go => String.ofList (lowered.filter (· != '-'))
  | _ => String.ofList (lowered.map fun c => if c = '-' then '_' else c)

end Language

end AccessLayer
