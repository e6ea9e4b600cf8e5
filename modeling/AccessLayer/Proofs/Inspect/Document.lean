import AccessLayer.Inspect

namespace AccessLayer

namespace Json

/-- An entry of an object. -/
def entry (depth : Nat) (e : String × Scalar) : String :=
  line depth (quoted e.1 ++ ": " ++ scalar e.2)

/-- Members between braces, each but the last with a comma behind it. -/
def objectText (depth : Nat) (members : List String) : String :=
  line depth "\x7b" ++ "\n" ++ ",\n".intercalate members ++ "\n" ++ line depth "\x7d"

/-- What is shown of the columns of a table, as the last member of its object. -/
def columnsText (columns : List Record) : String :=
  if columns.isEmpty then line 2 "\"columns\": []"
  else
    line 2 "\"columns\": [" ++ "\n" ++
      ",\n".intercalate (columns.map fun c => objectText 3 (c.map (entry 4))) ++ "\n" ++ line 2 "]"

/-- What the document holds of one table. -/
def shown (v : TableView) : String :=
  objectText 1 (v.facts.map (entry 2) ++ [columnsText v.columns])

private theorem intercalate_comma {group more : List String} (hgroup : group ≠ [])
    (hmore : more ≠ []) :
    "\n".intercalate (group.dropLast ++ (group.getLast?.map (· ++ ",")).toList ++ more) =
      "\n".intercalate group ++ ",\n" ++ "\n".intercalate more := by
  have hbreak : ",\n" = "," ++ "\n" := by decide
  rcases List.eq_nil_or_concat group with rfl | ⟨front, last, rfl⟩
  · exact absurd rfl hgroup
  rw [List.concat_eq_append, List.dropLast_concat, List.getLast?_concat, Option.map_some,
    Option.toList_some, List.append_assoc, List.singleton_append, hbreak]
  have hlast : "\n".intercalate ((last ++ ",") :: more) =
      last ++ "," ++ "\n" ++ "\n".intercalate more := String.intercalate_cons_of_ne_nil hmore
  cases front with
  | nil =>
    rw [List.nil_append, List.nil_append, hlast, String.intercalate_singleton]
    simp only [String.append_assoc]
  | cons first front =>
    rw [String.intercalate_append_of_ne_nil (List.cons_ne_nil _ _) (List.cons_ne_nil _ _), hlast,
      String.intercalate_append_of_ne_nil (List.cons_ne_nil _ _) (List.cons_ne_nil _ _),
      String.intercalate_singleton]
    simp only [String.append_assoc]

private theorem separated_ne_nil {groups : List (List String)} (hne : groups ≠ [])
    (hgroups : ∀ g ∈ groups, g ≠ []) : separated groups ≠ [] := by
  fun_cases separated groups with
  | case1 => exact absurd rfl hne
  | case2 last => exact hgroups last (by simp)
  | case3 group rest hrest =>
    obtain ⟨last, hlast⟩ := Option.ne_none_iff_exists'.mp
      (mt List.getLast?_eq_none_iff.mp (hgroups group (by simp)))
    simp [hlast]

/-- Separated groups of lines are the texts of the groups with commas between them. A comma behind
    the last line of a group stands behind the group. -/
theorem intercalate_separated {groups : List (List String)} (hgroups : ∀ g ∈ groups, g ≠ []) :
    "\n".intercalate (separated groups) = ",\n".intercalate (groups.map ("\n".intercalate ·)) := by
  fun_induction separated groups with
  | case1 => rfl
  | case2 last => simp
  | case3 group rest hrest ih =>
    have hgroup : group ≠ [] := hgroups group (by simp)
    have hothers : ∀ g ∈ rest, g ≠ [] := fun g hg => hgroups g (by simp [hg])
    obtain ⟨next, more, rfl⟩ := List.exists_cons_of_ne_nil hrest
    rw [intercalate_comma hgroup (separated_ne_nil hrest hothers), ih hothers]
    exact String.intercalate_cons_cons.symm

/-- Separated groups of lines between an opening and a closing line. -/
theorem intercalate_enclosed (opening closing : String) {groups : List (List String)}
    (hne : groups ≠ []) (hgroups : ∀ g ∈ groups, g ≠ []) :
    "\n".intercalate (opening :: separated groups ++ [closing]) =
      opening ++ "\n" ++ ",\n".intercalate (groups.map ("\n".intercalate ·)) ++ "\n" ++ closing := by
  rw [← intercalate_separated hgroups,
    String.intercalate_append_of_ne_nil (List.cons_ne_nil _ _) (List.cons_ne_nil _ _),
    String.intercalate_cons_of_ne_nil (separated_ne_nil hne hgroups), String.intercalate_singleton]

private theorem intercalate_object (depth : Nat) {parts : List (List String)} (hne : parts ≠ [])
    (hparts : ∀ p ∈ parts, p ≠ []) :
    "\n".intercalate (object depth parts) = objectText depth (parts.map ("\n".intercalate ·)) :=
  intercalate_enclosed _ _ hne hparts

/-- Every member of a record stands on one line. -/
theorem intercalate_members (depth : Nat) (r : Record) :
    (members depth r).map ("\n".intercalate ·) = r.map (entry depth) := by
  rw [members, List.map_map]
  refine List.map_congr_left fun e _ => ?_
  simp [entry]

private theorem members_ne_nil (depth : Nat) (r : Record) :
    ∀ group ∈ members depth r, group ≠ [] := by
  intro group hgroup
  obtain ⟨e, -, rfl⟩ := List.mem_map.mp hgroup
  exact List.cons_ne_nil _ _

/-- A record that holds something is an object of its entries. -/
theorem intercalate_record (depth : Nat) {r : Record} (h : r ≠ []) :
    "\n".intercalate (object depth (members (depth + 1) r)) =
      objectText depth (r.map (entry (depth + 1))) := by
  have hne : members (depth + 1) r ≠ [] := by simpa [members] using h
  rw [intercalate_object depth hne (members_ne_nil _ r), intercalate_members]

/-- The lines of a table are the text of its object, if each of its columns shows something. -/
theorem intercalate_table (v : TableView) (hcolumns : ∀ c ∈ v.columns, c ≠ []) :
    "\n".intercalate (table v) = shown v := by
  have hobjects : (v.columns.map fun c => object 3 (members 4 c)).map ("\n".intercalate ·) =
      v.columns.map fun c => objectText 3 (c.map (entry 4)) := by
    rw [List.map_map]
    exact List.map_congr_left fun c hc => intercalate_record 3 (hcolumns c hc)
  generalize hlisted : (if v.columns.isEmpty then [line 2 "\"columns\": []"]
    else
      line 2 "\"columns\": [" :: separated (v.columns.map fun c => object 3 (members 4 c)) ++
        [line 2 "]"]) = listed
  have hshown : listed ≠ [] ∧ "\n".intercalate listed = columnsText v.columns := by
    subst hlisted
    unfold columnsText
    split
    · exact ⟨List.cons_ne_nil _ _, String.intercalate_singleton⟩
    · rename_i hsome
      have hobjects_ne : ∀ g ∈ v.columns.map fun c => object 3 (members 4 c), g ≠ [] := by
        simp [object]
      refine ⟨List.cons_ne_nil _ _, ?_⟩
      rw [intercalate_enclosed _ _ (by simpa using hsome) hobjects_ne, hobjects]
  have hparts : ∀ p ∈ members 2 v.facts ++ [listed], p ≠ [] := by
    intro p hp
    rcases List.mem_append.mp hp with hfact | hlast
    · exact members_ne_nil 2 v.facts p hfact
    · rw [List.mem_singleton.mp hlast]
      exact hshown.1
  rw [table, hlisted, intercalate_object 1 (by simp) hparts, shown, List.map_append,
    intercalate_members, List.map_singleton, hshown.2]

/-- The document holds what is shown of each table, with commas between. -/
theorem render_eq {views : List TableView} (hcolumns : ∀ v ∈ views, ∀ c ∈ v.columns, c ≠ []) :
    render views =
      if views.isEmpty then "[]\n"
      else "[\n" ++ ",\n".intercalate (views.map shown) ++ "\n]\n" := by
  unfold render
  split
  · rfl
  · rename_i hviews
    have hopening : "[\n" = "[" ++ "\n" := by decide
    have hclosing : "\n]\n" = "\n" ++ "]" ++ "\n" := by decide
    have htables : (views.map table).map ("\n".intercalate ·) = views.map shown := by
      rw [List.map_map]
      exact List.map_congr_left fun v hv => intercalate_table v (hcolumns v hv)
    rw [intercalate_enclosed "[" "]" (by simpa using hviews) (by simp [table, object]), htables,
      hopening, hclosing]
    simp only [String.append_assoc]

end Json

namespace Yaml

/-- What the document holds of one table. -/
def shown (v : TableView) : String := String.join ((table v).map ended)

/-- Lines for people are put together table by table, without anything between them. -/
theorem render_eq (views : List TableView) :
    render views = if views.isEmpty then "[]\n" else String.join (views.map shown) := by
  have hjoin : String.join ((views.flatMap table).map ended) = String.join (views.map shown) := by
    induction views with
    | nil => rfl
    | cons v views ih =>
      rw [List.flatMap_cons, List.map_append, String.join_append, ih, List.map_cons,
        String.join_cons, shown]
  rw [render, hjoin]

end Yaml

namespace Format

/-- The whole that is made of what is shown of each table. -/
def document (format : Format) (sections : List String) : String :=
  match format with
  | text => if sections.isEmpty then "no tables found\n" else String.join sections
  | json =>
    if sections.isEmpty then "[]\n" else "[\n" ++ ",\n".intercalate sections ++ "\n]\n"
  | yaml => if sections.isEmpty then "[]\n" else String.join sections

/-- What is shown of a table. -/
def shown (format : Format) (t : Table) : String :=
  match format with
  | text => Plain.tableLine t ++ String.join (t.columns.map (Plain.columnLine t.key))
  | json => Json.shown (.ofTable t)
  | yaml => Yaml.shown (.ofTable t)

end Format

/-- In every format, what is shown of some tables is put together from what is shown of each. -/
theorem inspect_eq_document (format : Format) (tables : List Table) :
    inspect format tables = format.document (tables.map format.shown) := by
  have hempty : (tables.map format.shown).isEmpty = tables.isEmpty := List.isEmpty_map
  cases format with
  | text =>
    rw [Format.document, hempty, inspect, Plain.render]
    rfl
  | json =>
    have hcolumns : ∀ v ∈ tables.map TableView.ofTable, ∀ c ∈ v.columns, c ≠ [] := by
      simp [TableView.ofTable, TableView.ofColumn]
    have hshown : tables.map (Format.shown .json) = tables.map (Json.shown ∘ TableView.ofTable) :=
      List.map_congr_left fun t _ => by rw [Format.shown, Function.comp_apply]
    rw [Format.document, hempty, inspect, Json.render_eq hcolumns, List.isEmpty_map, List.map_map,
      hshown]
  | yaml =>
    have hshown : tables.map (Format.shown .yaml) = tables.map (Yaml.shown ∘ TableView.ofTable) :=
      List.map_congr_left fun t _ => by rw [Format.shown, Function.comp_apply]
    rw [Format.document, hempty, inspect, Yaml.render_eq, List.isEmpty_map, List.map_map, hshown]

end AccessLayer
