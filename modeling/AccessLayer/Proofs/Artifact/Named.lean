import AccessLayer.Proofs.Artifact.Call
import AccessLayer.Proofs.Artifact.Emission
import AccessLayer.Proofs.Blueprint.Parameters

namespace AccessLayer

open Line

/-- The entry of a dictionary, as it is spelled. -/
def entryText (entry : String × String) : String := "\"" ++ entry.1 ++ "\": " ++ entry.2

/-- The call on a session that runs the statement of an operation with the entries of a
    dictionary. -/
def sessionCall : Operation → Call
  | .findById => ⟨"self.session.execute(FIND_BY_ID, \x7b", "", "", "\x7d)"⟩
  | .findAll => ⟨"self.session.execute(FIND_ALL", "", "", ")"⟩
  | .create =>
    ⟨"self.session.execute(\n            INSERT,\n            \x7b", "\n                ", ",",
      "\n            \x7d,\n        )"⟩
  | .update =>
    ⟨"self.session.execute(\n            UPDATE,\n            \x7b", "\n                ", ",",
      "\n            \x7d,\n        )"⟩
  | .delete => ⟨"self.session.execute(DELETE, \x7b", "", "", "\x7d)"⟩

namespace Blueprint

variable (b : Blueprint)

/-- The entries of the dictionary, as the arguments that a method passes. -/
def namedArguments (op : Operation) : List Argument :=
  (b.named op).map fun entry => ⟨some entry.1, entry.2⟩

/-- A method passes the entries of the dictionary and nothing else. -/
theorem arguments_pythonStoreMethod (op : Operation) :
    arguments (pythonStoreMethod b op) = b.namedArguments op := by
  cases op <;>
    simp [pythonStoreMethod, pythonBody, pythonCall, pythonEntry, pythonCommit, block, sections,
      namedArguments, named, pythonKeyArgument, pythonFieldArgument, Function.comp_def]

private theorem contains_pythonCall (opening name : String) (passed : List Argument) :
    Contains (render .python (indent (indent (pythonCall opening name passed))))
      (Call.text ⟨"self.session.execute(\n            " ++ name ++ ",\n            \x7b",
        "\n                ", ",", "\n            \x7d,\n        )"⟩ (passed.map (·.text))) := by
  have hlines : indent (indent (pythonCall opening name passed)) =
      ⟨2, .text (opening ++ "await self.session.execute(")⟩ :: ⟨3, .text (name ++ ",")⟩ ::
        ⟨3, .text "\x7b"⟩ :: ((passed.map fun a => ⟨4, .passes "" a ","⟩) ++
          [⟨3, .text "\x7d,"⟩, ⟨2, .text ")"⟩]) := by
    have hentries : passed.map pythonEntry = passed.map fun a => ⟨0, .passes "" a ","⟩ := rfl
    simp [pythonCall, hentries, block, sections, toString]
  have hbelow : below .python (passed.map fun a => ⟨4, .passes "" a ","⟩) =
      String.join (passed.map fun a => "\n                " ++ a.text ++ ",") := by
    rw [below_arguments .python 4 "" (by decide)]
    rfl
  have hname : written .python ⟨3, .text (name ++ ",")⟩ = "            " ++ (name ++ ",") :=
    written_of_ne_empty .python (by simp [Content.written])
  obtain ⟨margin, hmargin⟩ :=
    exists_written_eq .python ⟨2, .text (opening ++ "await self.session.execute(")⟩
  refine ⟨margin ++ opening ++ "await ", "", ?_⟩
  rw [hlines, render_cons, below_cons, below_cons, below_append, hbelow, below_cons, below_cons,
    hmargin, hname, Call.text, List.map_map]
  have hbrace : written .python ⟨3, .text "\x7b"⟩ = "            \x7b" := rfl
  have hclose : written .python ⟨3, .text "\x7d,"⟩ = "            \x7d," := rfl
  have hend : written .python ⟨2, .text ")"⟩ = "        )" := rfl
  have hnothing : below .python [] = "" := rfl
  rw [hbrace, hclose, hend, hnothing]
  simp [← String.toList_inj, Content.written, Function.comp_def]

private theorem namedArguments_text (op : Operation) :
    (b.namedArguments op).map (·.text) = (b.named op).map entryText :=
  List.map_map

private theorem create_within :
    indent (indent (pythonCall "result = " "INSERT" (b.namedArguments .create))) <:+:
      indent (pythonStoreMethod b .create) := by
  have hpassed : b.namedArguments .create = b.queries.insertFields.map pythonFieldArgument :=
    List.map_map
  rw [hpassed]
  simp only [pythonStoreMethod, pythonBody, sections, List.flatten_cons, indent_cons, indent_append]
  exact ⟨[_], _, rfl⟩

private theorem update_within :
    indent (indent (pythonCall "" "UPDATE" (b.namedArguments .update))) <:+:
      indent (pythonStoreMethod b .update) := by
  have hpassed : b.namedArguments .update =
      b.queries.updateFields.map pythonFieldArgument ++ [b.pythonKeyArgument] := by
    rw [namedArguments, named, List.map_append, List.map_map]
    rfl
  rw [hpassed]
  simp only [pythonStoreMethod, pythonBody, sections, List.flatten_cons, indent_cons, indent_append]
  exact ⟨[_], _, rfl⟩

/-- The method of an operation runs its statement with the values that are passed by name. The
    entries stand on lines of their own, between the braces of the call. -/
theorem contains_sessionCall (op : Operation) :
    Contains (render .python (indent (pythonStoreMethod b op)))
      ((sessionCall op).text ((b.named op).map entryText)) := by
  cases op with
  | findById =>
    have hline : (⟨2, .passes "result = await self.session.execute(FIND_BY_ID, \x7b"
        ⟨some b.key.param, "entity_id"⟩ "\x7d)"⟩ : Line) ∈ indent (pythonStoreMethod b .findById) :=
      List.mem_of_getElem? (i := 1) rfl
    refine (contains_render_of_mem .python hline).trans ⟨"result = await ", "", ?_⟩
    simp [← String.toList_inj, Content.written, Argument.text, Call.text, sessionCall, named,
      entryText]
  | findAll =>
    have hline : (⟨2, .text "result = await self.session.execute(FIND_ALL)"⟩ : Line) ∈
        indent (pythonStoreMethod b .findAll) := List.mem_of_getElem? (i := 1) rfl
    exact (contains_render_of_mem .python hline).trans ⟨"result = await ", "", rfl⟩
  | create =>
    rw [← namedArguments_text]
    refine (contains_render .python b.create_within ?_).trans (contains_pythonCall _ _ _)
    simp [pythonCall, block]
  | update =>
    rw [← namedArguments_text]
    refine (contains_render .python b.update_within ?_).trans (contains_pythonCall _ _ _)
    simp [pythonCall, block]
  | delete =>
    have hline : (⟨2, .passes "await self.session.execute(DELETE, \x7b"
        ⟨some b.key.param, "entity_id"⟩ "\x7d)"⟩ : Line) ∈ indent (pythonStoreMethod b .delete) :=
      List.mem_of_getElem? (i := 1) rfl
    refine (contains_render_of_mem .python hline).trans ⟨"await ", "", ?_⟩
    simp [← String.toList_inj, Content.written, Argument.text, Call.text, sessionCall, named,
      entryText]

/-- The operations that are about one row are told its identifier. -/
theorem identifier_in_signature (model key : String) {op : Operation}
    (h : op = .findById ∨ op = .update ∨ op = .delete) :
    Contains (Language.signature .python model key op) ("(self, entity_id: " ++ key) := by
  rcases h with rfl | rfl | rfl
  · refine ⟨"async def find_by_id", ") -> Optional[" ++ model ++ "]", ?_⟩
    change s!"async def find_by_id(self, entity_id: {key}) -> Optional[{model}]" = _
    simp [← String.toList_inj, toString]
  · refine ⟨"async def update", ", entity: " ++ model ++ ") -> None", ?_⟩
    change s!"async def update(self, entity_id: {key}, entity: {model}) -> None" = _
    simp [← String.toList_inj, toString]
  · refine ⟨"async def delete", ") -> None", ?_⟩
    change s!"async def delete(self, entity_id: {key}) -> None" = _
    simp [← String.toList_inj, toString]

/-- The operations that set columns are given an entity. -/
theorem entity_in_signature (model key : String) {op : Operation}
    (h : op = .create ∨ op = .update) :
    Contains (Language.signature .python model key op) ("entity: " ++ model ++ ")") := by
  rcases h with rfl | rfl
  · refine ⟨"async def create(self, ", " -> " ++ key, ?_⟩
    change s!"async def create(self, entity: {model}) -> {key}" = _
    simp [← String.toList_inj, toString]
  · refine ⟨"async def update(self, entity_id: " ++ key ++ ", ", " -> None", ?_⟩
    change s!"async def update(self, entity_id: {key}, entity: {model}) -> None" = _
    simp [← String.toList_inj, toString]

/-- The store's text gives the operation's statement a name, and the one method of the operation
    runs what has this name with the dictionary. The identifier and the entity from which the values
    are taken are parameters of the method. -/
structure RunsByName (b : Blueprint) (text : String) (op : Operation) : Prop where
  constant : Contains text (b.language.constantText b.typeName op (b.queries.statement op))
  method : ∃ method, method <:+: b.storeLines ∧ heads method = [(op, b.signature op)] ∧
    arguments method = b.namedArguments op ∧
    Contains (render b.language method) ((sessionCall op).text ((b.named op).map entryText)) ∧
    Contains text (render b.language method)
  identifier : op = .findById ∨ op = .update ∨ op = .delete →
    Contains (b.signature op) ("(self, entity_id: " ++ b.key.type)
  entity : op = .create ∨ op = .update →
    Contains (b.signature op) ("entity: " ++ b.typeName ++ ")")

/-- In the store of every table, each operation has one method, which runs the statement that stands
    under the operation's name. -/
theorem runsByName_ofTable (service : String) (t : Table) (op : Operation) :
    RunsByName (ofTable .python service t) (render .python (ofTable .python service t).storeLines)
      op := by
  have hmethod := (ofTable .python service t).storeMethod_within op
  have hheads := (ofTable .python service t).heads_storeMethod op
  have hconstant := contains_render_of_mem .python ((ofTable .python service t).constantLine_mem op)
  rw [constantLine_written] at hconstant
  have hne : (ofTable .python service t).storeMethod op ≠ [] := by
    intro hnil
    rw [hnil] at hheads
    cases hheads
  have hpassed : arguments ((ofTable .python service t).storeMethod op) =
      (ofTable .python service t).namedArguments op :=
    (arguments_indent _).trans (arguments_pythonStoreMethod _ op)
  exact ⟨hconstant, ⟨_, hmethod, hheads, hpassed, contains_sessionCall _ op,
    contains_render .python hmethod hne⟩, identifier_in_signature _ _, entity_in_signature _ _⟩

/-- For every table that is read from a schema and whose columns have distinct names, what the
    operations of its store pass by name is what their statements mention. -/
theorem named_parameters_complete (text service : String) (t : Table) (ht : t ∈ readSchema text)
    (hdistinct : (t.columns.map (·.name)).Nodup)
    (hnames : ∀ c ∈ t.columns, Text.IsName c.name.toList) :
    (ofTable .python service t).fields.map (·.column) =
        (if t.keyIsAssumed then ["id"] else []) ++ t.columns.map (·.name) ∧
      (ofTable .python service t).named .findAll = [] ∧
      ∃ store, (ofTable .python service t).render? .store = some store ∧
        ∀ op, BoundByName (ofTable .python service t) op ∧
          RunsByName (ofTable .python service t) store op := by
  refine ⟨?_, rfl, _, rfl, fun op => ⟨?_, runsByName_ofTable service t op⟩⟩
  · rw [fields_columns, Table.keyedColumns_names]
  · exact boundByName_ofTable service (isName_of_mem_readSchema ht) hdistinct hnames op

/-- A table whose columns have the first two names that the key's parameter might have. -/
def links : Table :=
  ⟨"links", [⟨"entity_id", .uuid, true, true, none⟩, ⟨"entity_id_", .text, true, false, none⟩]⟩

/-- Two columns have the names that the key's parameter would have first. -/
theorem named_parameters_complete_links :
    links ∈ readSchema "CREATE TABLE links (entity_id UUID PRIMARY KEY, entity_id_ TEXT);" ∧
      (links.columns.map (·.name)).Nodup ∧
      (∀ c ∈ links.columns, Text.IsName c.name.toList) ∧
      (ofTable .python "service" links).queries.update.text =
        "UPDATE links SET entity_id_ = :entity_id_ WHERE entity_id = :entity_id__" ∧
      (ofTable .python "service" links).named .update =
        [("entity_id_", "entity.entity_id_"), ("entity_id__", "entity_id")] ∧
      ∃ store, (ofTable .python "service" links).render? .store = some store ∧
        ∀ op, BoundByName (ofTable .python "service" links) op ∧
          RunsByName (ofTable .python "service" links) store op := by
  have hread : links ∈
      readSchema "CREATE TABLE links (entity_id UUID PRIMARY KEY, entity_id_ TEXT);" := by
    have hschema : readSchema "CREATE TABLE links (entity_id UUID PRIMARY KEY, entity_id_ TEXT);" =
        [links] := by
      decide +kernel
    rw [hschema]
    exact List.mem_singleton_self links
  have hdistinct : (links.columns.map (·.name)).Nodup := by decide
  have hnames : ∀ c ∈ links.columns, Text.IsName c.name.toList := by decide
  exact ⟨hread, hdistinct, hnames, by decide +kernel, by decide +kernel,
    (named_parameters_complete _ "service" links hread hdistinct hnames).2.2⟩

end Blueprint

end AccessLayer
