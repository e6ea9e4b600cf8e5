import AccessLayer.Proofs.Schema.Declaration
import AccessLayer.Proofs.Schema.Occurrence
import AccessLayer.Schema.Reading

namespace AccessLayer

open Text Fragment Block

/-- A section declares the columns it was written from, and holds nothing that could end it. -/
theorem declarations_of_sectionText {columns : List Column} {body : List Char}
    (h : SectionText columns body) (hcolumns : ∀ c ∈ columns, c.IsWritable) {trail : List Char}
    (htrail : IsGap trail) :
    (ofBody (body ++ trail)).filterMap declaration? = columns ∧ ';' ∉ body := by
  induction h with
  | empty => simp [Fragment.ofBody_gap htrail]
  | @last c line htext =>
    obtain ⟨hdeclares, hline⟩ := declaration_of_columnText (hcolumns c (by simp)) htext
    exact ⟨by simp [hline.ofBody_gap htrail, hdeclares], hline.no_semicolon⟩
  | @cons c line separator columns rest htext hseparator _ ih =>
    obtain ⟨hdeclares, hline⟩ := declaration_of_columnText (hcolumns c (by simp)) htext
    obtain ⟨hrest, hfree⟩ := ih fun d hd => hcolumns d (by simp [hd])
    constructor
    · rw [List.append_assoc, List.append_assoc, hline.ofBody_separator hseparator,
        List.filterMap_cons_some hdeclares, hrest]
    · simp only [List.mem_append, not_or]
      exact ⟨hline.no_semicolon, hseparator.no_semicolon, hfree⟩

/-- With one key at most, no mark is taken away. -/
theorem keepFirstKey_eq_self {keyed : Bool} {columns : List Column}
    (h : keyed.toNat + columns.countP (·.marked) ≤ 1) : keepFirstKey keyed columns = columns := by
  induction columns generalizing keyed with
  | nil => rfl
  | cons c cs ih =>
    rw [List.countP_cons] at h
    have hmark : (if c.marked = true then 1 else 0) = c.marked.toNat := by
      cases c.marked <;> rfl
    rw [hmark] at h
    have hkept : (c.marked && !keyed) = c.marked := by
      cases keyed with
      | false => rw [Bool.not_false, Bool.and_true]
      | true =>
        rw [Bool.toNat_true] at h
        have hzero : c.marked.toNat = 0 := by omega
        rw [Bool.toNat_eq_zero.mp hzero, Bool.false_and]
    have hrest : (keyed || c.marked).toNat + cs.countP (·.marked) ≤ 1 := by
      have hor : (keyed || c.marked).toNat ≤ keyed.toNat + c.marked.toNat := by
        cases keyed <;> cases c.marked <;> decide
      omega
    rw [keepFirstKey, hkept, ih hrest]

private theorem occurrences_append_gap {gap : List Char} (hgap : IsGap gap) (cs : List Char) :
    occurrences (gap ++ cs) = occurrences cs := by
  induction gap with
  | nil => rfl
  | cons c gap ih =>
    have hc : isBlank c = true := hgap c (by simp)
    have hletter : c.toUpper ≠ 'C' := by
      intro heq
      rw [toUpper_of_isBlank hc] at heq
      rw [heq] at hc
      revert hc
      decide
    have hnone : atFront? (c :: (gap ++ cs)) = none := by
      simp [atFront?, header?, afterWord, hletter]
    rw [List.cons_append, occurrences_of_none hnone, ih fun d hd => hgap d (by simp [hd])]

/-- A written table is a block, and the block is that table. -/
theorem occurrences_of_tableText {t : Table} {text : List Char} (h : TableText t text)
    (ht : t.IsWritable) (rest : List Char) :
    ∃ b : Block, b.table = t ∧ occurrences (text ++ rest) = (b, rest) :: occurrences rest := by
  cases h with
  | @mk head lead body trail gap hname hlead hbody htrail hgap =>
    obtain ⟨hdeclares, hfree⟩ := declarations_of_sectionText hbody ht.columns htrail
    have hclean : ';' ∉ lead ++ (body ++ trail) := by
      simp only [List.mem_append, not_or]
      exact ⟨hlead.not_mem (by decide), hfree, htrail.not_mem (by decide)⟩
    have hfront := atFront_of_closing head (closing_section hclean hgap rest)
    refine ⟨⟨head.name, lead ++ (body ++ trail)⟩, ?_, ?_⟩
    · rw [Block.table, readColumns, ofBody_append_gap hlead, hdeclares,
        keepFirstKey_eq_self (by simpa using ht.one_key), hname, String.ofList_toList]
    · have hsplit : head.text ++ (lead ++ (body ++ trail) ++ ')' :: (gap ++ [';'])) ++ rest =
          head.text ++ (lead ++ (body ++ trail) ++ ')' :: (gap ++ ';' :: rest)) := by simp
      rw [hsplit, occurrences_of_some hfront]

/-- From a layout of some tables exactly these tables are read. -/
theorem readSchema_of_schemaText {tables : List Table} {text : List Char}
    (h : SchemaText tables text) (htables : ∀ t ∈ tables, t.IsWritable) :
    readSchema (String.ofList text) = tables := by
  rw [readSchema, String.toList_ofList, all_eq_map_occurrences, List.map_map]
  induction h with
  | nil hgap =>
    have hempty := occurrences_append_gap hgap []
    rw [List.append_nil, occurrences_nil] at hempty
    rw [hempty, List.map_nil]
  | @cons t gap text tables rest hgap htext _ ih =>
    obtain ⟨b, hb, hfound⟩ := occurrences_of_tableText htext (htables t (by simp)) rest
    rw [occurrences_append_gap hgap, hfound, List.map_cons, ih fun u hu => htables u (by simp [hu])]
    simp [hb]

/-- Reading undoes writing: tables that can be written down have a layout, and from each of their
    layouts exactly they are read, whatever the case of keywords and types, the gaps between tokens
    and the separators between columns. -/
theorem readSchema_of_written (tables : List Table) (htables : ∀ t ∈ tables, t.IsWritable) :
    (∃ text, SchemaText tables text) ∧
      ∀ text, SchemaText tables text → readSchema (String.ofList text) = tables :=
  ⟨exists_schemaText fun t ht => (htables t ht).name,
    fun _ htext => readSchema_of_schemaText htext htables⟩

/-- Two columns, and a name that is no identifier. -/
def usersTable : Table :=
  ⟨"users", [⟨"id", .uuid, true, true, none⟩, ⟨"price-tag", .text, false, false, none⟩]⟩

/-- A column that refers to another table. -/
def ordersTable : Table :=
  ⟨"orders", [⟨"user_id", .bigInteger, true, false, some "users(id)"⟩]⟩

private theorem isWritable_usersTable : usersTable.IsWritable := by
  refine ⟨by decide, ?_, by decide⟩
  rw [usersTable, List.forall_mem_cons, List.forall_mem_singleton]
  exact ⟨⟨by decide, nofun⟩, ⟨by decide, nofun⟩⟩

private theorem isWritable_ordersTable : ordersTable.IsWritable := by
  have htarget : IsTarget "users(id)".toList := by
    have htext : "users(id)".toList = "users".toList ++ '(' :: ("id".toList ++ [')']) := by decide
    rw [htext]
    exact .column (by decide) (by decide)
  refine ⟨by decide, ?_, by decide⟩
  rw [ordersTable, List.forall_mem_singleton]
  refine ⟨by decide, fun target hmem => ?_⟩
  obtain rfl := Option.some.inj hmem
  exact htarget

private theorem columnText_id : ColumnText ⟨"id", .uuid, true, true, none⟩
    ("id".toList ++ ([' '] ++ ("uuid".toList ++ ([' '] ++ ("primary".toList ++
      ([' '] ++ "KEY".toList)))))) := by
  have htype : TypeToken .uuid "uuid".toList := @TypeToken.bare _ "UUID" _ (by decide) (by decide)
  have hkey : MarkerPair "PRIMARY" "KEY" true ["primary".toList, "KEY".toList] :=
    ⟨_, _, by decide, by decide, rfl⟩
  exact ⟨_, @ColumnWords.mk ⟨"id", .uuid, true, true, none⟩ _ [] _ [] htype rfl hkey rfl,
    .cons (by decide) (by decide) (.cons (by decide) (by decide)
      (.cons (by decide) (by decide) .last))⟩

private theorem columnText_priceTag : ColumnText ⟨"price-tag", .text, false, false, none⟩
    ("price-tag".toList ++ (['\t'] ++ (("VarChar".toList ++ '(' :: ("10,2".toList ++ [')'])) ++
      ([' '] ++ ("NOT".toList ++ ([' '] ++ "null".toList)))))) := by
  have htype : TypeToken .text ("VarChar".toList ++ '(' :: ("10,2".toList ++ [')'])) :=
    @TypeToken.parameterised _ "VARCHAR" _ _ (by decide) (by decide) (by decide)
  have hnull : MarkerPair "NOT" "NULL" true ["NOT".toList, "null".toList] :=
    ⟨_, _, by decide, by decide, rfl⟩
  exact ⟨_, @ColumnWords.mk ⟨"price-tag", .text, false, false, none⟩ _ _ [] [] htype hnull rfl rfl,
    .cons (by decide) (by decide) (.cons (by decide) (by decide)
      (.cons (by decide) (by decide) .last))⟩

private theorem columnText_userId :
    ColumnText ⟨"user_id", .bigInteger, true, false, some "users(id)"⟩
      ("user_id".toList ++ ([' '] ++ ("bigint".toList ++ ([' '] ++ ("references".toList ++
        ([' '] ++ "users(id)".toList)))))) := by
  have htype : TypeToken .bigInteger "bigint".toList :=
    @TypeToken.bare _ "BIGINT" _ (by decide) (by decide)
  have hreference : ReferenceWords (some "users(id)") ["references".toList, "users(id)".toList] :=
    ⟨_, by decide, rfl⟩
  exact ⟨_, @ColumnWords.mk ⟨"user_id", .bigInteger, true, false, some "users(id)"⟩ _ [] [] _ htype
      rfl rfl hreference,
    .cons (by decide) (by decide) (.cons (by decide) (by decide)
      (.cons (by decide) (by decide) .last))⟩

private theorem tableText_usersTable : TableText usersTable
    ("create Table users(\nid uuid primary KEY\n\n".toList ++
      "price-tag\tVarChar(10,2) NOT null,\n) ;".toList) := by
  let head : Header := {
    create := "create".toList, createGap := [' '], table := "Table".toList, tableGap := [' ']
    name := "users".toList, nameGap := []
    create_upper := by decide, createGap_ne_nil := by decide, createGap_isGap := by decide
    table_upper := by decide, tableGap_ne_nil := by decide, tableGap_isGap := by decide
    name_isName := by decide, nameGap_isGap := IsGap.nil }
  have hname : head.name = usersTable.name.toList := rfl
  have hcolumns : SectionText usersTable.columns _ :=
    .cons columnText_id (@IsSeparator.newline [] ['\n'] (by decide) (by decide))
      (.cons columnText_priceTag (@IsSeparator.comma [] ['\n'] (by decide) (by decide)) .empty)
  have htext := @TableText.mk usersTable head ['\n'] _ [] [' '] hname (by decide) hcolumns
    (by decide) (by decide)
  exact (congrArg (TableText usersTable) (by decide)).mp htext

private theorem tableText_ordersTable : TableText ordersTable
    "CREATE TABLE orders (user_id bigint references users(id));".toList := by
  let head : Header := {
    create := "CREATE".toList, createGap := [' '], table := "TABLE".toList, tableGap := [' ']
    name := "orders".toList, nameGap := [' ']
    create_upper := by decide, createGap_ne_nil := by decide, createGap_isGap := by decide
    table_upper := by decide, tableGap_ne_nil := by decide, tableGap_isGap := by decide
    name_isName := by decide, nameGap_isGap := by decide }
  have hname : head.name = ordersTable.name.toList := rfl
  have htext := @TableText.mk ordersTable head [] _ [] [] hname IsGap.nil (.last columnText_userId)
    IsGap.nil IsGap.nil
  exact (congrArg (TableText ordersTable) (by decide)).mp htext

/-- Commas in parameters, a parenthesis of a reference next to the end of the section, line breaks
    for commas and keywords in mixed case are all read through. -/
theorem readSchema_of_written_users_orders :
    (∀ t ∈ ([⟨"users", [⟨"id", .uuid, true, true, none⟩, ⟨"price-tag", .text, false, false, none⟩]⟩,
      ⟨"orders", [⟨"user_id", .bigInteger, true, false, some "users(id)"⟩]⟩] : List Table),
        t.IsWritable) ∧
    readSchema (String.ofList ("create Table users(\nid uuid primary KEY\n\n".toList ++
        "price-tag\tVarChar(10,2) NOT null,\n) ;".toList ++
        "CREATE TABLE orders (user_id bigint references users(id));".toList)) =
      [⟨"users", [⟨"id", .uuid, true, true, none⟩, ⟨"price-tag", .text, false, false, none⟩]⟩,
       ⟨"orders", [⟨"user_id", .bigInteger, true, false, some "users(id)"⟩]⟩] := by
  have hwritable : ∀ t ∈ [usersTable, ordersTable], t.IsWritable :=
    List.forall_mem_cons.mpr
      ⟨isWritable_usersTable, List.forall_mem_singleton.mpr isWritable_ordersTable⟩
  refine ⟨hwritable, (readSchema_of_written [usersTable, ordersTable] hwritable).2 _ ?_⟩
  have hschema : SchemaText [usersTable, ordersTable] _ :=
    .cons IsGap.nil tableText_usersTable (.cons IsGap.nil tableText_ordersTable (.nil IsGap.nil))
  rw [List.nil_append, List.nil_append, List.append_nil] at hschema
  exact hschema

end AccessLayer
