import AccessLayer.Proofs.Blueprint.Optionality
import AccessLayer.Proofs.Language.Names

namespace AccessLayer

open Line

/-- The text quotes the word, once at least, and quotes nothing else. -/
def Quotes (text word : String) : Prop :=
  ∃ parts : List String, 2 ≤ parts.length ∧ (∀ p ∈ parts, '"' ∉ p.toList) ∧
    text = ("\"" ++ word ++ "\"").intercalate parts

private theorem quotes_between {opening closing : String} (before after word : String)
    (hopening : opening = before ++ "\"") (hclosing : closing = "\"" ++ after)
    (hbefore : '"' ∉ before.toList) (hafter : '"' ∉ after.toList) :
    Quotes (opening ++ word ++ closing) word := by
  subst hopening hclosing
  refine ⟨[before, after], Nat.le_refl 2, by simp [hbefore, hafter], ?_⟩
  simp [String.intercalate_cons_cons, String.append_assoc]

private theorem Quotes.cons {opening closing text word : String} (before between : String)
    (hopening : opening = before ++ "\"") (hclosing : closing = "\"" ++ between)
    (hbefore : '"' ∉ before.toList) (hbetween : '"' ∉ between.toList) (h : Quotes text word) :
    Quotes (opening ++ word ++ (closing ++ text)) word := by
  subst hopening hclosing
  obtain ⟨parts, hlength, hfree, rfl⟩ := h
  obtain ⟨first, second, rest, rfl⟩ : ∃ first second rest, parts = first :: second :: rest := by
    match parts, hlength with
    | first :: second :: rest, _ => exact ⟨first, second, rest, rfl⟩
  refine ⟨before :: (between ++ first) :: second :: rest, by simp, ?_, ?_⟩
  · simpa [hbefore, hbetween] using hfree
  · rw [String.intercalate_cons_cons, String.intercalate_cons_cons, String.intercalate_cons_cons]
    simp only [String.append_assoc]

namespace Language

/-- An identifier without the mark of a raw one. -/
def unmarked : List Char → List Char
  | 'r' :: '#' :: cs => cs
  | cs => cs

/-- The name that an identifier has in exchanged data by itself. -/
def ownName (l : Language) (name : String) : String :=
  match l with
  | rust => String.ofList (unmarked name.toList)
  | _ => name

open Field.isRenamed (withoutRawMarks)

private theorem length_withoutRawMarks (cs : List Char) :
    (withoutRawMarks cs).length ≤ cs.length := by
  fun_induction withoutRawMarks cs with
  | case1 cs ih =>
    simp only [List.length_cons]
    omega
  | case2 => exact Nat.le_refl _

/-- Dropping every raw mark changes a text exactly where dropping one does. -/
theorem withoutRawMarks_eq_self_iff (cs : List Char) :
    withoutRawMarks cs = cs ↔ unmarked cs = cs := by
  unfold unmarked
  split
  · rename_i cs
    constructor
    · intro h
      have hlength := congrArg List.length h
      have hle := length_withoutRawMarks cs
      rw [withoutRawMarks, List.length_cons, List.length_cons] at hlength
      omega
    · intro h
      have hlength := congrArg List.length h
      simp only [List.length_cons] at hlength
      omega
  · rename_i hunmarked
    simp [withoutRawMarks]

private theorem keywords_unmarked : ∀ w ∈ rawKeywords, withoutRawMarks w.toList = w.toList := by
  decide

private theorem suffixed_keeps_name : ∀ w ∈ suffixedKeywords rust,
    withoutRawMarks (w ++ "_").toList ≠ w.toList ∧ unmarked (w ++ "_").toList ≠ w.toList := by
  decide

/-- Dropping every raw mark from an identifier gives back its column exactly if dropping one does: a
    column that had to be marked has no mark of its own. -/
theorem Spelled.withoutRawMarks_eq_iff {a x : String} (h : Spelled rust a x) :
    withoutRawMarks x.toList = a.toList ↔ unmarked x.toList = a.toList := by
  cases h with
  | plain => exact withoutRawMarks_eq_self_iff a.toList
  | suffixed hword =>
    obtain ⟨hevery, hone⟩ := suffixed_keeps_name a hword
    exact iff_of_false hevery hone
  | raw _ hword =>
    have hmarked : ("r#" ++ a).toList = 'r' :: '#' :: a.toList := String.toList_append
    rw [hmarked, withoutRawMarks, unmarked]
    exact iff_of_true (keywords_unmarked a hword) rfl

/-- What stands before and behind the cell in which a value of a category is found. -/
def aroundCell : Category → String × String
  | .text | .uuid => ("", ".as<std::string>()")
  | .integer => ("", ".as<int>()")
  | .bigInteger => ("", ".as<int64_t>()")
  | .boolean => ("", ".as<bool>()")
  | .timestamp => ("detail::parse_timestamp(", ".as<std::string>())")
  | .json => ("nlohmann::json::parse(", ".as<std::string>())")

private theorem cppValue_eq (category : Category) (column : String) : cppValue category column =
    (aroundCell category).1 ++ ("row[\"" ++ column ++ "\"]") ++ (aroundCell category).2 := by
  unfold cppValue
  generalize "row[\"" ++ column ++ "\"]" = cell
  cases category with
  | timestamp | json => rfl
  | _ => rw [aroundCell, String.empty_append]

private theorem no_quote_aroundCell : ∀ category ∈ Category.all,
    '"' ∉ (aroundCell category).1.toList ∧ '"' ∉ (aroundCell category).2.toList := by
  decide +kernel

private theorem quotes_cppValue (category : Category) (column : String) {after : String}
    (hafter : '"' ∉ after.toList) : Quotes (cppValue category column ++ after) column := by
  obtain ⟨hfront, hback⟩ := no_quote_aroundCell category category.mem_all
  have hopening : "row[\"" = "row[" ++ "\"" := by decide
  have hclosing : "\"]" = "\"" ++ "]" := by decide
  have hopen : '"' ∉ "row[".toList := by decide +kernel
  have hclose : '"' ∉ "]".toList := by decide +kernel
  have hshape : cppValue category column ++ after = (aroundCell category).1 ++ "row[\"" ++
      column ++ ("\"]" ++ ((aroundCell category).2 ++ after)) := by
    rw [cppValue_eq]
    simp only [String.append_assoc]
  rw [hshape]
  refine quotes_between ((aroundCell category).1 ++ "row[")
    ("]" ++ ((aroundCell category).2 ++ after)) column ?_ ?_ ?_ ?_
  · rw [String.append_assoc, ← hopening]
  · rw [← @String.append_assoc "\"" "]", ← hclosing]
  · simpa only [String.toList_append, List.mem_append, not_or] using ⟨hfront, hopen⟩
  · simpa only [String.toList_append, List.mem_append, not_or] using ⟨hclose, hback, hafter⟩

/-- A read names the column that it reads, and no other. What is made of the cell then has no quotes
    of its own. -/
theorem quotes_read {l : Language} (hl : l ≠ go) (category : Category) (optional : Bool)
    (column : String) : Quotes (l.read category optional column) column := by
  rw [read_eq]
  cases l with
  | go => exact absurd rfl hl
  | rust =>
    cases optional with
    | true =>
      exact quotes_between "row.try_get(" ").ok().flatten()" column (by decide) (by decide)
        (by decide +kernel) (by decide +kernel)
    | false =>
      exact quotes_between "row.try_get(" ")?" column (by decide) (by decide) (by decide +kernel)
        (by decide +kernel)
  | cpp =>
    cases optional with
    | true =>
      have hvalue : Quotes (cppValue category column ++ ")") column :=
        quotes_cppValue category column (by decide +kernel)
      have hopening : "row[\"" = "row[" ++ "\"" := by decide
      have hclosing : "\"].is_null() ? std::nullopt : std::make_optional(" =
          "\"" ++ "].is_null() ? std::nullopt : std::make_optional(" := by decide +kernel
      have hread := hvalue.cons _ _ hopening hclosing (by decide +kernel) (by decide +kernel)
      rw [← String.append_assoc, ← String.append_assoc] at hread
      exact hread
    | false =>
      have hvalue : Quotes (cppValue category column ++ "") column :=
        quotes_cppValue category column (by decide +kernel)
      rwa [String.append_empty] at hvalue
  | python =>
    cases optional with
    | true =>
      exact quotes_between "mapping.get(" ")" column (by decide) (by decide) (by decide +kernel)
        (by decide +kernel)
    | false =>
      exact quotes_between "mapping[" "]" column (by decide) (by decide) (by decide +kernel)
        (by decide +kernel)

end Language

namespace Field

/-- The name that a model states for a field. -/
def given? (f : Field) : Language → Option String
  | .rust => Blueprint.rename? f
  | .python => Blueprint.alias? f
  | .go => some f.column
  | .cpp => none

/-- The field is exchanged under the name of its column. Where names are stated only as needed, one
    is stated exactly if the identifier by itself would not give the column. -/
structure Exchanged (f : Field) (l : Language) : Prop where
  identifier : f.name = l.fieldName f.column
  name : l ≠ .cpp → (f.given? l).getD (l.ownName f.name) = f.column
  given : l = .rust ∨ l = .python →
    ((f.given? l).isSome = true ↔ l.ownName f.name ≠ f.column)
  read : l ≠ .go → Quotes f.read f.column

end Field

namespace Blueprint

/-- In the language with raw identifiers, whether a field is renamed can be seen from the name that
    it would be exchanged under. -/
theorem isRenamed_iff (keyColumn : String) (c : Column) :
    (field .rust keyColumn c).isRenamed = true ↔
      Language.ownName .rust (field .rust keyColumn c).name ≠ c.name := by
  have hmarks := (Language.spelled_fieldName (l := .rust) (by decide) c.name).withoutRawMarks_eq_iff
  rw [Field.isRenamed, bne_iff_ne, ne_eq, ne_eq, ← String.toList_inj, Language.ownName,
    String.toList_ofList]
  exact not_congr hmarks

private theorem getD_eq_column {given : Option String} {own column : String}
    (hcolumn : ∀ name ∈ given, name = column) (hneeded : given.isSome = true ↔ own ≠ column) :
    given.getD own = column := by
  cases given with
  | none => simpa using hneeded
  | some name => exact hcolumn name rfl

/-- Every field is exchanged under its column's name, and a name is stated only where the identifier
    would not do. -/
theorem field_exchanged (l : Language) (keyColumn : String) (c : Column) :
    (field l keyColumn c).Exchanged l := by
  have hread (hl : l ≠ .go) : Quotes (field l keyColumn c).read c.name :=
    Language.quotes_read hl c.category c.isOptional c.name
  cases l with
  | rust =>
    have hneeded : (rename? (field .rust keyColumn c)).isSome = true ↔
        Language.ownName .rust (field .rust keyColumn c).name ≠ c.name := by
      rw [rename?, Option.isSome_ite]
      exact isRenamed_iff keyColumn c
    have hcolumn : ∀ name ∈ rename? (field .rust keyColumn c), name = c.name := by
      intro name hname
      exact (Option.some_inj.mp (Option.mem_ite_none_right.mp hname).2).symm
    exact ⟨rfl, fun _ => getD_eq_column hcolumn hneeded, fun _ => hneeded, hread⟩
  | python =>
    have hneeded : (alias? (field .python keyColumn c)).isSome = true ↔
        (field .python keyColumn c).name ≠ c.name := by
      simp [alias?, field]
    have hcolumn : ∀ name ∈ alias? (field .python keyColumn c), name = c.name := by
      simp [alias?, field]
    exact ⟨rfl, fun _ => getD_eq_column hcolumn hneeded, fun _ => hneeded, hread⟩
  | go => exact ⟨rfl, fun _ => rfl, by simp, hread⟩
  | cpp => exact ⟨rfl, fun h => absurd rfl h, by simp, hread⟩

/-- The lines of a model that declare a field and say under which name it is exchanged. -/
def declaration (l : Language) (f : Field) : List String :=
  match l with
  | .rust =>
    ["/// " ++ f.label] ++
      ((f.given? .rust).map fun name => "#[serde(rename = \"" ++ name ++ "\")]").toList ++
      ["pub " ++ f.name ++ ": " ++ f.type ++ ","]
  | .cpp => ["/// " ++ f.label, f.type ++ " " ++ f.name ++ ";"]
  | .python =>
    [f.name ++ ": " ++ f.type ++ " = Field(" ++ (if f.optional then "None" else "...") ++
      ", description=\"" ++ f.label ++ "\"" ++
      ((f.given? .python).map fun name => ", alias=\"" ++ name ++ "\"").getD "" ++ ")"]
  | .go =>
    ["// " ++ f.label, f.name ++ " " ++ f.type ++ " " ++
      ((f.given? .go).map fun name => "`json:\"" ++ name ++ "\" db:\"" ++ name ++ "\"`").getD ""]

variable {l : Language}

private theorem declaration_ne_empty (f : Field) : ∀ s ∈ declaration l f, s ≠ "" := by
  intro s hs
  cases l with
  | rust =>
    simp only [declaration, List.mem_append, List.mem_singleton, Option.mem_toList,
      Option.map_eq_some_iff] at hs
    rcases hs with (rfl | ⟨name, -, rfl⟩) | rfl <;> simp
  | cpp | python | go =>
    simp only [declaration, List.mem_cons, List.not_mem_nil, or_false] at hs
    rcases hs with rfl | rfl <;> simp

private theorem declarations_within (b : Blueprint) (hl : b.language = l) :
    ((b.fields.flatMap (declaration l)).map fun s => (⟨1, .text s⟩ : Line)) <:+: b.modelLines := by
  have hentries (entry : Field → List Line)
      (h : ∀ f, entry f = (declaration l f).map fun s => ⟨0, .text s⟩) :
      indent (b.fields.flatMap entry) =
        (b.fields.flatMap (declaration l)).map fun s => ⟨1, .text s⟩ := by
    rw [indent, List.map_flatMap, List.map_flatMap]
    refine List.flatMap_congr fun f _ => ?_
    rw [h, List.map_map]
    rfl
  unfold modelLines
  rw [hl]
  cases l with
  | rust =>
    have hentry (f : Field) :
        rustField f = (declaration .rust f).map fun s => (⟨0, .text s⟩ : Line) := by
      unfold rustField declaration Field.given?
      cases rename? f <;> rfl
    rw [← hentries rustField hentry]
    exact within_sections 5 rfl (within_block _ _ _)
  | cpp =>
    rw [← hentries cppField fun f => rfl]
    refine within_sections 6 rfl (List.IsInfix.trans (indent_within ?_) (within_block _ _ _))
    exact within_sections 0 rfl (List.infix_refl _)
  | python =>
    rw [← hentries (fun f => [pythonField f]) fun f => rfl, ← List.map_eq_flatMap]
    exact within_sections 6 rfl (List.infix_refl _)
  | go =>
    rw [← hentries goField fun f => rfl]
    exact within_sections 3 rfl (within_block _ _ _)

/-- The declarations of all fields stand one below the other in the text of the model. -/
theorem contains_declarations (b : Blueprint) (hl : b.language = l) (hfields : b.fields ≠ []) :
    Contains (render l b.modelLines)
      ("\n".intercalate ((b.fields.flatMap (declaration l)).map (indentation l 1 ++ ·))) := by
  have hne : b.fields.flatMap (declaration l) ≠ [] := by
    obtain ⟨f, hf⟩ := List.exists_mem_of_ne_nil _ hfields
    refine fun hnil => absurd (List.flatMap_eq_nil_iff.mp hnil f hf) ?_
    cases l <;> simp [declaration]
  have hcontains := contains_render l (b.declarations_within hl) (by simpa using hne)
  have hwritten : ((b.fields.flatMap (declaration l)).map fun s => (⟨1, .text s⟩ : Line)).map
      (written l) = (b.fields.flatMap (declaration l)).map (indentation l 1 ++ ·) := by
    rw [List.map_map]
    refine List.map_congr_left fun s hs => ?_
    obtain ⟨f, -, hdeclared⟩ := List.mem_flatMap.mp hs
    exact written_of_ne_empty l (declaration_ne_empty f s hdeclared)
  unfold render at hcontains ⊢
  rwa [hwritten] at hcontains

/-- For every table, each column has one field that is exchanged under the column's name, whatever
    its identifier; the model says so where it declares the field, and the store reads just that
    column. -/
theorem fields_exchanged_as_columns (l : Language) (service : String) (t : Table) :
    (ofTable l service t).fields.map (·.column) =
        (if t.keyIsAssumed then ["id"] else []) ++ t.columns.map (·.name) ∧
      (∀ f ∈ (ofTable l service t).fields, f.Exchanged l) ∧
      (∃ text, (ofTable l service t).render? .model = some text ∧
        Contains text ("\n".intercalate
          (((ofTable l service t).fields.flatMap (declaration l)).map (indentation l 1 ++ ·)))) ∧
      ∀ depth entry, listed? l .store = some (depth, entry) →
        ∃ text, (ofTable l service t).render? .store = some text ∧
          Contains text ("\n".intercalate
            ((ofTable l service t).fields.map fun f => indentation l depth ++ entry f)) := by
  have hfields : (ofTable l service t).fields ≠ [] := fields_ne_nil service t
  refine ⟨?_, fun f hf => ?_, ⟨_, rfl, contains_declarations _ rfl hfields⟩,
    fun depth entry h => contains_listed _ rfl h hfields⟩
  · rw [fields_columns, Table.keyedColumns_names]
  · obtain ⟨c, -, rfl⟩ := List.mem_map.mp hf
    exact field_exchanged l t.key.name c

/-- Columns that are reserved, or look like identifiers that were escaped. -/
def awkward : Table :=
  ⟨"parts", [⟨"r#r#x", .uuid, false, true, none⟩, ⟨"type", .text, true, false, none⟩,
    ⟨"r#kind", .text, true, false, none⟩, ⟨"self", .text, true, false, none⟩,
    ⟨"pass_", .text, true, false, none⟩, ⟨"class", .json, true, false, none⟩]⟩

/-- Columns with raw marks of their own and columns that are reserved words. -/
theorem fields_exchanged_as_columns_awkward :
    (ofTable .rust "shop" awkward).fields.map (fun f => (f.name, f.given? .rust)) =
        [("r#r#x", some "r#r#x"), ("r#type", none), ("r#kind", some "r#kind"),
          ("self_", some "self"), ("pass_", none), ("class", none)] ∧
      (∀ f ∈ (ofTable .rust "shop" awkward).fields, f.Exchanged .rust) ∧
      ∃ text, (ofTable .python "shop" awkward).render? .store = some text ∧
        Contains text
          "        pass_=mapping.get(\"pass_\"),\n        class_=mapping.get(\"class\")," := by
  obtain ⟨-, hexchanged, -, -⟩ := fields_exchanged_as_columns .rust "shop" awkward
  obtain ⟨-, -, -, hstore⟩ := fields_exchanged_as_columns .python "shop" awkward
  obtain ⟨text, hrendered, hcontains⟩ := hstore 2 _ rfl
  refine ⟨by decide +kernel, hexchanged, text, hrendered, hcontains.trans ?_⟩
  refine ⟨"        r#r#x=mapping[\"r#r#x\"],\n        type=mapping.get(\"type\"),\n" ++
    "        r#kind=mapping.get(\"r#kind\"),\n        self=mapping.get(\"self\"),\n", "",
    by decide +kernel⟩

end Blueprint

end AccessLayer
