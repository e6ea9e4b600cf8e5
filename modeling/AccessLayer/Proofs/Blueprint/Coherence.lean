import AccessLayer.Proofs.Blueprint.Key

namespace AccessLayer

namespace Table

variable {t : Table}

/-- No column is marked and none is called `id`. -/
def Keyless (t : Table) : Prop := ∀ c ∈ t.columns, c.marked = false ∧ c.name ≠ "id"

instance : DecidablePred Keyless := fun t =>
  inferInstanceAs (Decidable (∀ c ∈ t.columns, c.marked = false ∧ c.name ≠ "id"))

/-- A key is assumed exactly where no column is marked and none has the key's usual name. -/
theorem keyIsAssumed_iff_keyless : t.keyIsAssumed = true ↔ t.Keyless := by
  simpa [Keyless] using keyIsAssumed_iff (t := t)

/-- Where the key of a table comes from: it is the first marked column, or else the column called
    `id` with a mark, or else no column at all. -/
inductive KeySource (t : Table) : Column → Prop where
  | marked {before after : List Column} {c : Column} (hcolumns : t.columns = before ++ c :: after)
      (hmarked : c.marked = true) (hfirst : ∀ d ∈ before, d.marked = false) : KeySource t c
  | promoted {c : Column} (hmem : c ∈ t.columns) (hname : c.name = "id")
      (hnone : ∀ d ∈ t.columns, d.marked = false) : KeySource t { c with marked := true }
  | assumed (hnone : t.Keyless) : KeySource t .assumedKey

/-- The key of every table has a source: a mark, the usual name or nothing at all. -/
theorem keySource_key (t : Table) : t.KeySource t.key := by
  unfold key
  cases hmarked : t.columns.find? (·.marked) with
  | some c =>
    obtain ⟨hc, before, after, hcolumns, hbefore⟩ := List.find?_eq_some_iff_append.mp hmarked
    exact .marked hcolumns hc (by simpa using hbefore)
  | none =>
    have hnone : ∀ d ∈ t.columns, d.marked = false := by simpa using hmarked
    cases hid : t.columns.find? (·.name == "id") with
    | some c =>
      have hname : c.name = "id" := by simpa using List.find?_some hid
      exact .promoted (List.mem_of_find?_eq_some hid) hname hnone
    | none =>
      have hother : ∀ d ∈ t.columns, d.name ≠ "id" := by simpa using hid
      exact .assumed fun d hd => ⟨hnone d hd, hother d hd⟩

/-- Among distinct columns, the one with the key's name is what the key is made of. -/
theorem category_of_key_name (h : (t.columns.map (·.name)).Nodup) {c : Column}
    (hc : c ∈ t.columns) (hname : c.name = t.key.name) : c.category = t.key.category := by
  have hsame {d : Column} (hd : d ∈ t.columns) (hdname : d.name = c.name) : d = c :=
    List.inj_on_of_nodup_map h hd hc hdname
  have hsource := t.keySource_key
  generalize t.key = k at hname hsource
  cases hsource with
  | marked hcolumns => rw [hsame (by simp [hcolumns]) hname.symm]
  | promoted hmem => rw [hsame hmem hname.symm]
  | assumed hnone => exact absurd hname (hnone c hc).2

/-- With the key among them, the columns are what they were, but that the key always has a value. -/
theorem keyedColumns_eq (h : (t.columns.map (·.name)).Nodup) :
    t.keyedColumns.map (fun c => (c.name, c.category, c.isOptional)) =
      (if t.Keyless then [("id", Category.uuid, false)] else []) ++
        t.columns.map fun c => (c.name, c.category, c.isOptional && c.name != t.key.name) := by
  have hdeclared :
      (t.columns.map fun c => if c.name = t.key.name then t.key else c).map
          (fun c => (c.name, c.category, c.isOptional)) =
        t.columns.map fun c => (c.name, c.category, c.isOptional && c.name != t.key.name) := by
    rw [List.map_map]
    refine List.map_congr_left fun c hc => ?_
    by_cases hkey : c.name = t.key.name
    · simp [hkey, category_of_key_name h hc hkey, key_isOptional]
    · simp [hkey]
  unfold keyedColumns
  by_cases hassumed : t.keyIsAssumed = true
  · rw [if_pos hassumed, if_pos (keyIsAssumed_iff_keyless.mp hassumed), List.map_cons, hdeclared,
      key_of_assumed hassumed]
    rfl
  · rw [if_neg hassumed, if_neg (mt keyIsAssumed_iff_keyless.mpr hassumed), hdeclared,
      List.nil_append]

end Table

namespace Language

/-- No type is spelled as if it had been made optional. -/
theorem nativeType_ne_optionalOf (l : Language) (category : Category) (type : String) :
    l.nativeType category ≠ l.optionalOf type := by
  intro h
  have hspelled := congrArg String.toList h
  unfold nativeType optionalOf at hspelled
  cases l <;> cases category <;> simp at hspelled

end Language

namespace Blueprint

/-- The field is what the key says of it, and the type of both is the bare one. -/
structure IsKeyField (b : Blueprint) (f : Field) : Prop where
  isKey : f.isKey = true
  column : f.column = b.key.column
  name : f.name = b.key.name
  type : f.type = b.key.type
  read : f.read = b.key.read
  bare : b.key.type = b.language.nativeType f.category ∧
    ∀ type, b.key.type ≠ b.language.optionalOf type

/-- The blueprint has one key, which is the table's. -/
structure Coherent (b : Blueprint) (t : Table) : Prop where
  /-- The fields are the columns in their order, after the assumed key if no column is one. -/
  fields : b.fields.map (fun f => (f.column, f.category, f.optional)) =
    (if t.Keyless then [("id", Category.uuid, false)] else []) ++
      t.columns.map fun c => (c.name, c.category, c.isOptional && c.name != b.key.column)
  /-- One field is the key's, made of the column that the table has for its key. -/
  key : ∃ before k after, b.fields = before ++ k :: after ∧ b.IsKeyField k ∧
    (∀ f ∈ before ++ after, f.isKey = false) ∧ b.plainFields = before ++ after ∧
    k.column = t.key.name ∧ k.category = t.key.category
  source : t.KeySource t.key
  assumed : b.key.assumed = t.keyIsAssumed ∧ (b.key.assumed = true ↔ t.Keyless)

/-- The field of the key is the one that tells what the key tells, wherever it stands. -/
theorem isKeyField_ofTable (l : Language) (service : String) {t : Table}
    (h : (t.columns.map (·.name)).Nodup) :
    (ofTable l service t).IsKeyField (field l t.key.name t.key) := by
  have hfound : (ofTable l service t).fields.find? (·.isKey) = some (field l t.key.name t.key) := by
    rw [← List.head?_filter, filter_isKey l service h, List.head?_cons]
  refine ⟨beq_self_eq_true _, rfl, rfl, rfl, ?_, ofTable_keyType l service t, fun type => ?_⟩
  · change _ = (((ofTable l service t).fields.find? (·.isKey)).map (·.read)).getD ""
    rw [hfound]
    rfl
  · rw [ofTable_keyType]
    exact l.nativeType_ne_optionalOf _ type

/-- For every table with distinct columns, whichever of them are marked, the blueprint has one
    key. -/
theorem key_is_coherent (l : Language) (service : String) (t : Table)
    (hdistinct : (t.columns.map (·.name)).Nodup) : Coherent (ofTable l service t) t := by
  refine ⟨?_, ?_, t.keySource_key, rfl, Table.keyIsAssumed_iff_keyless⟩
  · rw [show (ofTable l service t).fields = t.keyedColumns.map (field l t.key.name) from rfl,
      List.map_map]
    exact Table.keyedColumns_eq hdistinct
  · have hkeys := filter_isKey l service hdistinct
    obtain ⟨before, after, hsplit, hbefore, -, hafter⟩ := List.filter_eq_cons_iff.mp hkeys
    have hothers : ∀ f ∈ before ++ after, f.isKey = false := by
      intro f hf
      rcases List.mem_append.mp hf with hf | hf
      · simpa using hbefore f hf
      · simpa using List.filter_eq_nil_iff.mp hafter f hf
    refine ⟨before, _, after, hsplit, isKeyField_ofTable l service hdistinct, hothers, ?_, rfl, rfl⟩
    have hkept : (before ++ after).filter (!·.isKey) = before ++ after :=
      List.filter_eq_self.mpr fun f hf => by simp [hothers f hf]
    rw [plainFields, hsplit, List.filter_append, List.filter_cons, if_neg (by simp [field]),
      ← List.filter_append, hkept]

/-- A table with two marked columns, which may be absent. -/
def badges : Table :=
  ⟨"badges", [⟨"title", .text, false, false, none⟩, ⟨"code", .integer, true, true, none⟩,
    ⟨"serial", .bigInteger, true, true, none⟩]⟩

/-- A table whose column `id` is not marked and may be absent. -/
def rooms : Table :=
  ⟨"rooms", [⟨"floor", .integer, true, false, none⟩, ⟨"id", .text, true, false, none⟩]⟩

/-- A table without a column that could be the key. -/
def remarks : Table := ⟨"remarks", [⟨"body", .text, true, false, none⟩]⟩

/-- A key that is marked, one that has the usual name, and one that is assumed. -/
theorem key_is_coherent_three_sources :
    ((badges.columns.map (·.name)).Nodup ∧ Coherent (ofTable .rust "service" badges) badges ∧
      (ofTable .rust "service" badges).fields.map (fun f => (f.name, f.type)) =
        [("title", "String"), ("code", "i32"), ("serial", "i64")] ∧
      (ofTable .rust "service" badges).key.name = "code") ∧
    ((rooms.columns.map (·.name)).Nodup ∧ Coherent (ofTable .go "service" rooms) rooms ∧
      (ofTable .go "service" rooms).fields.map (fun f => (f.name, f.type)) =
        [("Floor", "*int"), ("Id", "string")]) ∧
    (remarks.columns.map (·.name)).Nodup ∧ Coherent (ofTable .python "service" remarks) remarks ∧
      (ofTable .python "service" remarks).fields.map (fun f => (f.name, f.type)) =
        [("id", "UUID"), ("body", "Optional[str]")] := by
  have hbadges : (badges.columns.map (·.name)).Nodup := by decide
  have hrooms : (rooms.columns.map (·.name)).Nodup := by decide
  have hremarks : (remarks.columns.map (·.name)).Nodup := by decide
  exact ⟨⟨hbadges, key_is_coherent .rust "service" badges hbadges, by decide +kernel,
      by decide +kernel⟩,
    ⟨hrooms, key_is_coherent .go "service" rooms hrooms, by decide +kernel⟩,
    hremarks, key_is_coherent .python "service" remarks hremarks, by decide +kernel⟩

end Blueprint

end AccessLayer
