import AccessLayer.Artifact
import AccessLayer.Proofs.Blueprint.Coherence
import AccessLayer.Proofs.Source.Line
import AccessLayer.Schema.Reading

namespace AccessLayer

open Line

/-- What is passed of a member of an entity, where a member that may be absent has to be opened
    before its value can be converted. -/
inductive Passed
  | member
  | opened
  | stamped (e : Passed)
  | dumped (e : Passed)
  | guarded (e : Passed)

namespace Passed

/-- How the member is passed. -/
def text (member : String) : Passed → String
  | .member => member
  | opened => member ++ ".value()"
  | stamped e => "detail::format_timestamp(" ++ e.text member ++ ")"
  | dumped e => e.text member ++ ".dump()"
  | guarded e => member ++ " ? std::optional<std::string>(" ++ e.text member ++ ") : std::nullopt"

/-- Whether the member is opened, which it must not be where it is absent. -/
def opens : Passed → Bool
  | .member => false
  | opened => true
  | stamped e | dumped e | guarded e => e.opens

/-- The member is opened only behind a test that it is there. -/
def Safe (tested : Bool) : Passed → Prop
  | .member => True
  | opened => tested = true
  | stamped e | dumped e => e.Safe tested
  | guarded e => e.Safe true

/-- Whether what is passed may be absent, given whether the member may be. There is no answer where
    the expression has no type: only an optional member is opened or tested, and only what is there
    is converted. -/
def optionality? (optional : Bool) : Passed → Option Bool
  | .member => some optional
  | opened => if optional then some false else none
  | stamped e | dumped e => (e.optionality? optional).filter (!·)
  | guarded e =>
    if optional then ((e.optionality? optional).filter (!·)).map fun _ => true else none

end Passed

namespace Language

/-- What is bound has a type, may be absent exactly where the field may be, and opens the member
    only behind its own test. -/
theorem exists_passed (category : Category) (optional : Bool) (name : String) :
    ∃ e : Passed, cpp.bind category optional name = e.text ("entity." ++ name) ∧ e.Safe false ∧
      e.optionality? optional = some optional ∧
      (e.opens = true ↔ optional = true ∧ (category = .timestamp ∨ category = .json)) := by
  cases optional with
  | false =>
    cases category with
    | timestamp => exact ⟨.stamped .member, rfl, trivial, rfl, by decide⟩
    | json => exact ⟨.dumped .member, rfl, trivial, rfl, by decide⟩
    | _ => exact ⟨.member, rfl, trivial, rfl, by decide⟩
  | true =>
    cases category with
    | timestamp => exact ⟨.guarded (.stamped .opened), rfl, rfl, rfl, by decide⟩
    | json => exact ⟨.guarded (.dumped .opened), rfl, rfl, rfl, by decide⟩
    | _ => exact ⟨.member, rfl, trivial, rfl, by decide⟩

/-- Reads a column that always has a value; where it has none, the read fails. -/
def strictRead (l : Language) (category : Category) (column : String) : String :=
  match l with
  | rust => "row.try_get(\"" ++ column ++ "\")?"
  | cpp => cppValue category column
  | python => "mapping[\"" ++ column ++ "\"]"
  | go => ""

/-- Reads a column that may have no value as one that is absent. -/
def tolerantRead (l : Language) (category : Category) (column : String) : String :=
  match l with
  | rust => "row.try_get(\"" ++ column ++ "\").ok().flatten()"
  | cpp =>
    "row[\"" ++ column ++ "\"].is_null() ? std::nullopt : std::make_optional(" ++
      cppValue category column ++ ")"
  | python => "mapping.get(\"" ++ column ++ "\")"
  | go => ""

variable (l : Language) (category : Category) (optional : Bool) (column : String)

/-- A column is read tolerantly where its field is optional and strictly elsewhere, whatever its
    category. -/
theorem read_eq : l.read category optional column =
    if optional then l.tolerantRead category column else l.strictRead category column := by
  have hstrict : "\")" ++ "?" = "\")?" := by decide
  have htolerant : "\")" ++ ".ok().flatten()" = "\").ok().flatten()" := by decide
  cases l with
  | rust =>
    cases optional with
    | true =>
      change "row.try_get(\"" ++ column ++ "\")" ++ ".ok().flatten()" =
        "row.try_get(\"" ++ column ++ "\").ok().flatten()"
      rw [String.append_assoc, htolerant]
    | false =>
      change "row.try_get(\"" ++ column ++ "\")" ++ "?" = "row.try_get(\"" ++ column ++ "\")?"
      rw [String.append_assoc, hstrict]
  | cpp | python | go => cases optional <;> rfl

/-- Of the two ways to read a column the tolerant one takes more to spell. -/
theorem length_strictRead_lt (hl : l ≠ .go) :
    (l.strictRead category column).length < (l.tolerantRead category column).length := by
  unfold strictRead tolerantRead
  cases l with
  | go => exact absurd rfl hl
  | rust =>
    have hend : "\")?".length < "\").ok().flatten()".length := by decide
    simp only [String.length_append]
    omega
  | cpp =>
    have hend : 0 < ")".length := by decide
    simp only [String.length_append]
    omega
  | python =>
    have hends : "mapping[\"".length + "\"]".length < "mapping.get(\"".length + "\")".length := by
      decide
    simp only [String.length_append]
    omega

private theorem strictRead_ne_tolerantRead (hl : l ≠ .go) :
    l.strictRead category column ≠ l.tolerantRead category column := fun h =>
  (l.length_strictRead_lt category column hl).ne (congrArg String.length h)

/-- Conversely, a column that is read tolerantly has an optional field. In the language whose rows
    fill a whole structure the two ways are the same. -/
theorem read_eq_tolerantRead_iff (hl : l ≠ .go) :
    l.read category optional column = l.tolerantRead category column ↔ optional = true := by
  rw [read_eq]
  cases optional with
  | true => simp
  | false => simpa using l.strictRead_ne_tolerantRead category column hl

/-- Conversely, a column that is read strictly has a field that is always there. -/
theorem read_eq_strictRead_iff (hl : l ≠ .go) :
    l.read category optional column = l.strictRead category column ↔ optional = false := by
  rw [read_eq]
  cases optional with
  | true => simpa using (l.strictRead_ne_tolerantRead category column hl).symm
  | false => simp

/-- No sample of a value that is there looks like a wrapped one. -/
theorem sample_eq_some_iff :
    (∃ value, rust.sample category optional = "Some(" ++ value ++ ")") ↔ optional = true := by
  cases optional with
  | true => exact ⟨fun _ => rfl, fun _ => ⟨sampleValue category, rfl⟩⟩
  | false =>
    refine ⟨?_, nofun⟩
    rintro ⟨value, hvalue⟩
    have hlists := congrArg String.toList hvalue
    cases category <;> simp [sample, sampleValue] at hlists

end Language

namespace Table

variable {t : Table}

/-- The columns with the key among them are the key and the columns with other names. -/
theorem mem_keyedColumns {k : Column} (h : k ∈ t.keyedColumns) :
    k = t.key ∨ k ∈ t.columns ∧ k.name ≠ t.key.name := by
  have hdeclared (hmem : k ∈ t.columns.map fun c => if c.name = t.key.name then t.key else c) :
      k = t.key ∨ k ∈ t.columns ∧ k.name ≠ t.key.name := by
    obtain ⟨c, hc, rfl⟩ := List.mem_map.mp hmem
    by_cases hname : c.name = t.key.name
    · exact Or.inl (if_pos hname)
    · rw [if_neg hname]
      exact Or.inr ⟨hc, hname⟩
  unfold keyedColumns at h
  split at h
  · rcases List.mem_cons.mp h with hkey | hrest
    · exact Or.inl hkey
    · exact hdeclared hrest
  · exact hdeclared h

end Table

namespace Field

/-- The field is optional where its column may be absent and is not the key. A field without a
    column is the assumed key, which is always there. -/
structure Follows (f : Field) (t : Table) : Prop where
  isKey : f.isKey = true ↔ f.column = t.key.name
  declared : ∀ c ∈ t.columns, c.name = f.column →
    (f.optional = true ↔ c.nullable = true ∧ c.marked = false ∧ f.isKey = false)
  assumed : (∀ c ∈ t.columns, c.name ≠ f.column) → f.isKey = true ∧ f.optional = false

/-- Everything that is spelled from the field tells alike whether it is optional. -/
structure Spelled (f : Field) (l : Language) : Prop where
  native : f.nativeType = l.nativeType f.category
  type : (f.type = l.optionalOf f.nativeType ↔ f.optional = true) ∧
    (f.type = f.nativeType ↔ f.optional = false)
  read : l ≠ .go →
    (f.read = l.tolerantRead f.category f.column ↔ f.optional = true) ∧
      (f.read = l.strictRead f.category f.column ↔ f.optional = false)
  bind : l = .cpp → ∃ e : Passed, f.bind = e.text ("entity." ++ f.name) ∧ e.Safe false ∧
    e.optionality? f.optional = some f.optional ∧
    (e.opens = true ↔ f.optional = true ∧ (f.category = .timestamp ∨ f.category = .json))
  sample : l = .rust → ((∃ value, f.sample = "Some(" ++ value ++ ")") ↔ f.optional = true)

end Field

namespace Blueprint

variable (l : Language)

/-- Among distinct columns a field has one, unless it is the assumed key. -/
theorem field_follows {t : Table} (hdistinct : (t.columns.map (·.name)).Nodup) {k : Column}
    (hk : k ∈ t.keyedColumns) : (field l t.key.name k).Follows t := by
  have hkey : (field l t.key.name k).isKey = true ↔ k.name = t.key.name := beq_iff_eq
  rcases Table.mem_keyedColumns hk with rfl | ⟨hmem, hname⟩
  · have hsolid : (field l t.key.name t.key).optional = false := t.key_isOptional
    have hself : (field l t.key.name t.key).isKey = true := hkey.mpr rfl
    refine ⟨hkey, fun c _ _ => ?_, fun _ => ⟨hself, hsolid⟩⟩
    rw [hsolid, hself]
    exact ⟨nofun, fun h => absurd h.2.2 nofun⟩
  · refine ⟨hkey, fun c hc hsame => ?_, fun hnone => absurd rfl (hnone k hmem)⟩
    obtain rfl := List.inj_on_of_nodup_map hdistinct hc hmem hsame
    have hother : (field l t.key.name c).isKey = false :=
      Bool.eq_false_iff.mpr fun h => hname (hkey.mp h)
    rw [hother, show (field l t.key.name c).optional = (c.nullable && !c.marked) from rfl]
    simp

/-- Whether a field is optional is decided once; its type, its reading, its binding, its default and
    its sample follow. -/
theorem field_spelled (keyColumn : String) (c : Column) : (field l keyColumn c).Spelled l where
  native := rfl
  type := by
    have hbare := l.nativeType_ne_optionalOf c.category (l.nativeType c.category)
    unfold field Language.columnType
    cases c.isOptional with
    | true => simpa using hbare.symm
    | false => simpa using hbare
  read hl :=
    ⟨l.read_eq_tolerantRead_iff c.category c.isOptional c.name hl,
      l.read_eq_strictRead_iff c.category c.isOptional c.name hl⟩
  bind hl := by
    subst hl
    exact Language.exists_passed c.category c.isOptional _
  sample hl := by
    subst hl
    exact Language.sample_eq_some_iff c.category c.isOptional

/-- How fields are spelled where an artifact lists them one below the other, and how far in. -/
def listed? (l : Language) : Kind → Option (Nat × (Field → String))
  | .model =>
    match l with
    | .python =>
      some (1, fun f => f.name ++ ": " ++ f.type ++ " = Field(" ++
        (if f.optional then "None" else "...") ++ ", description=\"" ++ f.label ++ "\"" ++
        ((alias? f).map fun column => ", alias=\"" ++ column ++ "\"").getD "" ++ ")")
    | _ => none
  | .store =>
    match l with
    | .rust => some (2, fun f => f.name ++ ": " ++ f.read ++ ",")
    | .cpp => some (2, fun f => "entity." ++ f.name ++ " = " ++ f.read ++ ";")
    | .python => some (2, fun f => f.name ++ "=" ++ f.read ++ ",")
    | .go => none
  | .mock =>
    match l with
    | .rust => some (3, fun f => f.name ++ ": " ++ f.sample ++ ",")
    | _ => none
  | _ => none

/-- The line of a model that says of which type a field is. -/
def typed (l : Language) (f : Field) : String :=
  match l with
  | .rust => "pub " ++ f.name ++ ": " ++ f.type ++ ","
  | .cpp => f.type ++ " " ++ f.name ++ ";"
  | .python => f.name ++ ": " ++ f.type ++ " = Field("
  | .go => f.name ++ " " ++ f.type ++ " "

variable {l}

/-- The model has a line with the name and the type of every field. -/
theorem contains_typed (b : Blueprint) (hl : b.language = l) {f : Field} (hf : f ∈ b.fields) :
    Contains (render l b.modelLines) (typed l f) := by
  unfold modelLines
  rw [hl]
  cases l with
  | rust =>
    have hentry : (⟨0, .text s!"pub {f.name}: {f.type},"⟩ : Line) ∈ b.fields.flatMap rustField :=
      List.mem_flatMap.mpr ⟨f, hf, by simp [rustField, sections]⟩
    have hline : ⟨1, .text s!"pub {f.name}: {f.type},"⟩ ∈ rustModel b := by
      simp [rustModel, sections, block, mem_indent hentry]
    simpa [Content.written, typed, toString] using contains_render_of_mem .rust hline
  | cpp =>
    have hentry : (⟨0, .text s!"{f.type} {f.name};"⟩ : Line) ∈ b.fields.flatMap cppField :=
      List.mem_flatMap.mpr ⟨f, hf, by simp [cppField]⟩
    have hline : ⟨1, .text s!"{f.type} {f.name};"⟩ ∈ cppModel b := by
      simp [cppModel, sections, block, mem_indent hentry]
    simpa [Content.written, typed, toString] using contains_render_of_mem .cpp hline
  | python =>
    have hentry := mem_indent (List.mem_map_of_mem (f := pythonField) hf)
    have hline : ⟨1, (pythonField f).content⟩ ∈ pythonModel b :=
      List.mem_flatten.mpr ⟨_, List.mem_of_getElem? (i := 6) rfl, hentry⟩
    obtain ⟨rest, hrest⟩ :
        ∃ rest, (pythonField f).content.written = typed .python f ++ rest := by
      simp only [pythonField, Content.written, typed, toString, String.append_assoc]
      exact ⟨_, rfl⟩
    exact (contains_render_of_mem .python hline).trans
      ⟨"", rest, by rw [hrest, String.empty_append]⟩
  | go =>
    have hentry : (⟨0, .text s!"{f.name} {f.type} {tags f}"⟩ : Line) ∈ b.fields.flatMap goField :=
      List.mem_flatMap.mpr ⟨f, hf, by simp [goField]⟩
    have hline : ⟨1, .text s!"{f.name} {f.type} {tags f}"⟩ ∈ goModel b := by
      simp [goModel, sections, block, mem_indent hentry]
    refine (contains_render_of_mem .go hline).trans ⟨"", tags f, ?_⟩
    simp [Content.written, typed, toString]

private theorem entries_within (b : Blueprint) (hl : b.language = l) {kind : Kind} {depth : Nat}
    {entry : Field → String} (h : listed? l kind = some (depth, entry)) :
    ∃ ls, b.lines? kind = some ls ∧
      (b.fields.map fun f => (⟨depth, .text (entry f)⟩ : Line)) <:+: ls := by
  cases l <;> cases kind <;> cases h
  case python.model =>
    refine ⟨pythonModel b, by rw [lines?, modelLines, hl], ?_⟩
    have hmodel : indent (b.fields.map pythonField) <:+: pythonModel b :=
      within_sections 6 rfl (List.infix_refl _)
    rw [indent, List.map_map] at hmodel
    exact hmodel
  case rust.store =>
    refine ⟨rustStore b, by rw [lines?, storeLines, hl], ?_⟩
    have hstore : indent (indent (b.fields.map fun f => (s!"{f.name}: {f.read}," : Line))) <:+:
        rustStore b := by
      refine within_sections 8 rfl (List.IsInfix.trans ?_ (within_block _ _ _))
      exact indent_within (within_block _ _ _)
    rw [indent_map, indent_map] at hstore
    exact hstore
  case cpp.store =>
    refine ⟨cppStore b, by rw [lines?, storeLines, hl], ?_⟩
    have hstore : indent (indent (b.fields.map fun f => (s!"entity.{f.name} = {f.read};" : Line)))
        <:+: cppStore b := by
      refine within_sections 8 rfl (indent_within (within_sections 1 rfl ?_))
      exact (indent_within (within_sections 1 rfl (List.infix_refl _))).trans (within_block _ _ _)
    rw [indent_map, indent_map] at hstore
    exact hstore
  case python.store =>
    refine ⟨pythonStore b, by rw [lines?, storeLines, hl], ?_⟩
    have hstore : indent (indent (b.fields.map fun f => (s!"{f.name}={f.read}," : Line))) <:+:
        pythonStore b :=
      within_sections 4 rfl (indent_within (within_sections 1 rfl (within_block _ _ _)))
    rw [indent_map, indent_map] at hstore
    exact hstore
  case rust.mock =>
    refine ⟨rustMock b, by rw [lines?, mockLines, hl], ?_⟩
    have hmock : indent (indent (indent (b.fields.map fun f =>
        (s!"{f.name}: {f.sample}," : Line)))) <:+: rustMock b := by
      refine within_sections 10 rfl (List.IsInfix.trans (indent_within ?_) (within_block _ _ _))
      refine within_sections 2 rfl (List.IsInfix.trans ?_ (within_block _ _ _))
      exact indent_within (within_block _ _ _)
    rw [indent_map, indent_map, indent_map] at hmock
    exact hmock

/-- What is said of each field in an artifact stands there for all of them, one below the other.
    There has to be a field, since of no fields nothing would be said. -/
theorem contains_listed (b : Blueprint) (hl : b.language = l) {kind : Kind} {depth : Nat}
    {entry : Field → String} (h : listed? l kind = some (depth, entry)) (hfields : b.fields ≠ []) :
    ∃ text, b.render? kind = some text ∧
      Contains text ("\n".intercalate (b.fields.map fun f => indentation l depth ++ entry f)) := by
  obtain ⟨ls, hlines, hwithin⟩ := b.entries_within hl h
  refine ⟨render l ls, by rw [render?, hlines, hl, Option.map_some], ?_⟩
  have hcontains := contains_render l hwithin (by simpa using hfields)
  have hentries : render l (b.fields.map fun f => (⟨depth, .text (entry f)⟩ : Line)) =
      "\n".intercalate (b.fields.map fun f => indentation l depth ++ entry f) := by
    rw [render, List.map_map]
    congr 1
    refine List.map_congr_left fun f _ => written_of_ne_empty l ?_
    cases l <;> cases kind <;> cases h <;> simp [Content.written]
  rwa [hentries] at hcontains

/-- There is always a field: at least the key's. -/
theorem fields_ne_nil (service : String) (t : Table) : (ofTable l service t).fields ≠ [] :=
  List.ne_nil_of_mem (List.mem_map_of_mem (f := field l t.key.name) t.key_mem_keyedColumns)

/-- For every table with distinct columns, a field is optional exactly where its column may be
    absent and is not the key, and whatever is spelled from the field follows: its type, how it is
    read and passed, its default and its sample, in the blueprint and where the artifacts list the
    fields. -/
theorem optionality_is_consistent (l : Language) (service : String) (t : Table)
    (hdistinct : (t.columns.map (·.name)).Nodup) :
    (∀ f ∈ (ofTable l service t).fields, f.Follows t ∧ f.Spelled l ∧
        ∃ text, (ofTable l service t).render? .model = some text ∧ Contains text (typed l f)) ∧
      ((ofTable l service t).usesOptional = true ↔
        ∃ f ∈ (ofTable l service t).fields, f.optional = true) ∧
      ∀ kind depth entry, listed? l kind = some (depth, entry) →
        ∃ text, (ofTable l service t).render? kind = some text ∧
          Contains text ("\n".intercalate
            ((ofTable l service t).fields.map fun f => indentation l depth ++ entry f)) := by
  refine ⟨fun f hf => ?_, List.any_eq_true, fun kind depth entry h => ?_⟩
  · have htyped := contains_typed (ofTable l service t) rfl hf
    obtain ⟨c, hc, rfl⟩ := List.mem_map.mp hf
    exact ⟨field_follows l hdistinct hc, field_spelled l _ c, _, rfl, htyped⟩
  · exact contains_listed (ofTable l service t) rfl h (fields_ne_nil service t)

/-- A table whose columns may all be absent but the key and the last one. -/
def visits : Table :=
  ⟨"visits", [⟨"id", .uuid, true, true, none⟩, ⟨"seen", .timestamp, true, false, none⟩,
    ⟨"extra", .json, true, false, none⟩, ⟨"place", .text, false, false, none⟩]⟩

/-- The key, two columns that may be null and one that may not be. -/
theorem optionality_is_consistent_visits :
    readSchema
        "CREATE TABLE visits (id UUID PRIMARY KEY, seen TIMESTAMP, extra JSONB, place TEXT NOT NULL);" =
        [visits] ∧
      (visits.columns.map (·.name)).Nodup ∧
      (ofTable .python "service" visits).fields.map (·.optional) = [false, true, true, false] ∧
      (∀ f ∈ (ofTable .cpp "service" visits).fields, f.Follows visits ∧ f.Spelled .cpp) ∧
      ∃ text, (ofTable .python "service" visits).render? .model = some text ∧
        Contains text "    seen: Optional[datetime] = Field(None, description=\"Seen\")\n" := by
  have hdistinct : (visits.columns.map (·.name)).Nodup := by decide
  obtain ⟨hfields, -, -⟩ := optionality_is_consistent .cpp "service" visits hdistinct
  obtain ⟨-, -, hlisted⟩ := optionality_is_consistent .python "service" visits hdistinct
  refine ⟨by decide +kernel, hdistinct, by decide +kernel,
    fun f hf => ⟨(hfields f hf).1, (hfields f hf).2.1⟩, ?_⟩
  obtain ⟨text, hrendered, hcontains⟩ := hlisted .model 1 _ rfl
  refine ⟨text, hrendered, hcontains.trans ?_⟩
  refine ⟨"    id: UUID = Field(..., description=\"Id\")\n",
    "    extra: Optional[dict] = Field(None, description=\"Extra\")\n" ++
      "    place: str = Field(..., description=\"Place\")", by decide +kernel⟩

end Blueprint

end AccessLayer
