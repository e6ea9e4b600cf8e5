import AccessLayer.Proofs.Schema.Header
import AccessLayer.Schema.Table

namespace AccessLayer

open Text

/-- Blanks that do not end a line. -/
def IsInlineGap (gap : List Char) : Prop := ∀ c ∈ gap, isBlank c = true ∧ c ≠ '\n'

/-- The word stands for a keyword, in whatever case. -/
def Spells (keyword : String) (word : List Char) : Prop := upperAscii word = keyword.toList

/-- Two hyphens in a row start a comment. -/
def HoldsComment (cs : List Char) : Prop := ['-', '-'] <:+: cs

instance : DecidablePred IsInlineGap :=
  fun gap => List.decidableBAll (fun c => isBlank c = true ∧ c ≠ '\n') gap

instance (keyword : String) : DecidablePred (Spells keyword) :=
  fun word => inferInstanceAs (Decidable (upperAscii word = keyword.toList))

instance decidableHoldsComment : DecidablePred HoldsComment
  | [] => isFalse (by simp [HoldsComment])
  | c :: cs =>
    have := decidableHoldsComment cs
    decidable_of_iff (['-', '-'] <+: c :: cs ∨ HoldsComment cs) List.infix_cons_iff.symm

/-- The type names of a category, in upper case. -/
def Category.spellings : Category → List String
  | text => ["TEXT", "VARCHAR"]
  | integer => ["INTEGER"]
  | bigInteger => ["BIGINT"]
  | boolean => ["BOOLEAN"]
  | timestamp => ["TIMESTAMP"]
  | uuid => ["UUID"]
  | json => ["JSONB"]

/-- What may stand between the parentheses of a type: commas do, blanks and parentheses do not. -/
structure IsParameterList (inner : List Char) : Prop where
  plain : ∀ c ∈ inner, isBlank c = false ∧ c ≠ '(' ∧ c ≠ ')' ∧ c ≠ ';'
  no_comment : ¬ HoldsComment inner

instance : DecidablePred IsParameterList := fun inner =>
  have := List.decidableBAll (fun c => isBlank c = false ∧ c ≠ '(' ∧ c ≠ ')' ∧ c ≠ ';') inner
  decidable_of_iff (_ ∧ ¬ HoldsComment inner)
    ⟨fun ⟨hplain, hcomment⟩ => ⟨hplain, hcomment⟩, fun ⟨hplain, hcomment⟩ => ⟨hplain, hcomment⟩⟩

/-- A type of the category, with or without parameters. -/
inductive TypeToken (category : Category) : List Char → Prop
  | bare {keyword base} : keyword ∈ category.spellings → Spells keyword base →
      TypeToken category base
  | parameterised {keyword base inner} : keyword ∈ category.spellings → Spells keyword base →
      IsParameterList inner → TypeToken category (base ++ '(' :: (inner ++ [')']))

/-- A name that a column can have without being taken for something else. -/
structure IsColumnName (name : List Char) : Prop where
  ne_nil : name ≠ []
  plain : ∀ c ∈ name, isBlank c = false ∧ c ≠ '(' ∧ c ≠ ')' ∧ c ≠ ',' ∧ c ≠ ';'
  no_comment : ¬ HoldsComment name
  not_clause : ∀ keyword ∈ ["CONSTRAINT", "UNIQUE", "CHECK"], ¬ Spells keyword name

instance : DecidablePred IsColumnName := fun name =>
  have := List.decidableBAll
    (fun c => isBlank c = false ∧ c ≠ '(' ∧ c ≠ ')' ∧ c ≠ ',' ∧ c ≠ ';') name
  decidable_of_iff (name ≠ [] ∧ _ ∧ ¬ HoldsComment name ∧
      ∀ keyword ∈ ["CONSTRAINT", "UNIQUE", "CHECK"], ¬ Spells keyword name)
    ⟨fun ⟨hne, hplain, hcomment, hclause⟩ => ⟨hne, hplain, hcomment, hclause⟩,
      fun ⟨hne, hplain, hcomment, hclause⟩ => ⟨hne, hplain, hcomment, hclause⟩⟩

/-- What a reference can name: a table, or a table and one of its columns. -/
inductive IsTarget : List Char → Prop
  | table {table} : IsName table → IsTarget table
  | column {table column} : IsName table → IsName column →
      IsTarget (table ++ '(' :: (column ++ [')']))

/-- A marker of two words, or nothing where it does not apply. -/
def MarkerPair (first second : String) (applies : Bool) (words : List (List Char)) : Prop :=
  if applies then ∃ a b, Spells first a ∧ Spells second b ∧ words = [a, b] else words = []

/-- The words of a reference, or nothing where there is none. -/
def ReferenceWords (reference : Option String) (words : List (List Char)) : Prop :=
  match reference with
  | some target => ∃ a, Spells "REFERENCES" a ∧ words = [a, target.toList]
  | none => words = []

/-- The words that declare a column, in order. -/
inductive ColumnWords (c : Column) : List (List Char) → Prop
  | mk {type notNull primaryKey references} : TypeToken c.category type →
      MarkerPair "NOT" "NULL" (!c.nullable) notNull →
      MarkerPair "PRIMARY" "KEY" c.marked primaryKey →
      ReferenceWords c.reference references →
      ColumnWords c (c.name.toList :: type :: (notNull ++ (primaryKey ++ references)))

/-- Words on one line with a gap between any two. -/
inductive Spaced : List (List Char) → List Char → Prop
  | last {word} : Spaced [word] word
  | cons {word gap words line} : gap ≠ [] → IsInlineGap gap → Spaced words line →
      Spaced (word :: words) (word ++ (gap ++ line))

/-- One written column. -/
def ColumnText (c : Column) (line : List Char) : Prop := ∃ words, ColumnWords c words ∧ Spaced words line

/-- What parts two columns: a comma or a line break, and any blanks around it. -/
inductive IsSeparator : List Char → Prop
  | comma {before after} : IsGap before → IsGap after → IsSeparator (before ++ ',' :: after)
  | newline {before after} : IsGap before → IsGap after → IsSeparator (before ++ '\n' :: after)

/-- The columns of a table as they stand between its parentheses. -/
inductive SectionText : List Column → List Char → Prop
  | empty : SectionText [] []
  | last {c line} : ColumnText c line → SectionText [c] line
  | cons {c line separator columns rest} : ColumnText c line → IsSeparator separator →
      SectionText columns rest → SectionText (c :: columns) (line ++ (separator ++ rest))

/-- One written table. -/
inductive TableText (t : Table) : List Char → Prop
  | mk {head : Block.Header} {lead section_ trail gap} : head.name = t.name.toList →
      IsGap lead → SectionText t.columns section_ → IsGap trail → IsGap gap →
      TableText t (head.text ++ (lead ++ (section_ ++ trail) ++ ')' :: (gap ++ [';'])))

/-- Written tables one after the other, with blanks or nothing around each. -/
inductive SchemaText : List Table → List Char → Prop
  | nil {gap} : IsGap gap → SchemaText [] gap
  | cons {t gap text tables rest} : IsGap gap → TableText t text → SchemaText tables rest →
      SchemaText (t :: tables) (gap ++ (text ++ rest))

/-- The names and references of a column can be written down. -/
structure Column.IsWritable (c : Column) : Prop where
  name : IsColumnName c.name.toList
  reference : ∀ target ∈ c.reference, IsTarget target.toList

/-- The table can be written down: its names can, and at most one column is its key. -/
structure Table.IsWritable (t : Table) : Prop where
  name : IsName t.name.toList
  columns : ∀ c ∈ t.columns, c.IsWritable
  one_key : t.columns.countP (·.marked) ≤ 1

private theorem exists_spaced (words : List (List Char)) (hne : words ≠ []) :
    ∃ line, Spaced words line := by
  induction words with
  | nil => exact absurd rfl hne
  | cons word words ih =>
    cases words with
    | nil => exact ⟨word, .last⟩
    | cons next words =>
      obtain ⟨line, hline⟩ := ih (by simp)
      exact ⟨word ++ ([' '] ++ line), .cons (by simp) (by decide) hline⟩

/-- Every column can be written down. -/
theorem exists_columnText (c : Column) : ∃ line, ColumnText c line := by
  have htype : ∃ type, TypeToken c.category type := by
    have hall : ∀ category ∈ Category.all, ∃ keyword ∈ category.spellings,
        Spells keyword keyword.toList := by decide
    obtain ⟨keyword, hkeyword, hspells⟩ := hall c.category (Category.mem_all c.category)
    exact ⟨keyword.toList, .bare hkeyword hspells⟩
  have hpair (first second : String) (hfirst : Spells first first.toList)
      (hsecond : Spells second second.toList) (applies : Bool) :
      ∃ words, MarkerPair first second applies words := by
    cases applies with
    | false => exact ⟨[], rfl⟩
    | true => exact ⟨_, _, _, hfirst, hsecond, rfl⟩
  have hreference : ∃ words, ReferenceWords c.reference words := by
    cases c.reference with
    | none => exact ⟨[], rfl⟩
    | some target => exact ⟨_, "REFERENCES".toList, by decide, rfl⟩
  obtain ⟨type, htype⟩ := htype
  obtain ⟨notNull, hnull⟩ := hpair "NOT" "NULL" (by decide) (by decide) (!c.nullable)
  obtain ⟨primaryKey, hkey⟩ := hpair "PRIMARY" "KEY" (by decide) (by decide) c.marked
  obtain ⟨references, hreference⟩ := hreference
  obtain ⟨line, hline⟩ := exists_spaced
    (c.name.toList :: type :: (notNull ++ (primaryKey ++ references))) (by simp)
  exact ⟨line, _, ⟨htype, hnull, hkey, hreference⟩, hline⟩

/-- Columns can be written one below the other. -/
theorem exists_sectionText (columns : List Column) : ∃ body, SectionText columns body := by
  induction columns with
  | nil => exact ⟨[], .empty⟩
  | cons c columns ih =>
    obtain ⟨line, hline⟩ := exists_columnText c
    obtain ⟨rest, hrest⟩ := ih
    cases columns with
    | nil => exact ⟨line, .last hline⟩
    | cons d columns =>
      exact ⟨_, .cons hline (.comma IsGap.nil IsGap.nil) hrest⟩

/-- Every list of tables with usable names can be written down. -/
theorem exists_schemaText {tables : List Table} (h : ∀ t ∈ tables, IsName t.name.toList) :
    ∃ text, SchemaText tables text := by
  induction tables with
  | nil => exact ⟨[], .nil IsGap.nil⟩
  | cons t tables ih =>
    obtain ⟨rest, hrest⟩ := ih fun u hu => h u (by simp [hu])
    obtain ⟨body, hbody⟩ := exists_sectionText t.columns
    let head : Block.Header := {
      create := "CREATE".toList, createGap := [' '], table := "TABLE".toList, tableGap := [' ']
      name := t.name.toList, nameGap := []
      create_upper := by decide, createGap_ne_nil := by decide, createGap_isGap := by decide
      table_upper := by decide, tableGap_ne_nil := by decide, tableGap_isGap := by decide
      name_isName := h t (by simp), nameGap_isGap := IsGap.nil }
    have hname : head.name = t.name.toList := rfl
    have htext := TableText.mk hname IsGap.nil hbody IsGap.nil IsGap.nil
    exact ⟨_, .cons IsGap.nil htext hrest⟩

end AccessLayer
