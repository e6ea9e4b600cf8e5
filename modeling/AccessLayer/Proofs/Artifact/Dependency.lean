import AccessLayer.Proofs.Artifact.Dependency.Cpp
import AccessLayer.Proofs.Artifact.Dependency.Go
import AccessLayer.Proofs.Artifact.Dependency.Python
import AccessLayer.Proofs.Artifact.Dependency.Rust

namespace AccessLayer

open Line Text

/-- A label is made of the words of a name, so a name without line breaks has one without. -/
theorem Name.isInline_label {name : String} (h : IsSolid name.toList) :
    IsInline (Name.label name) := by
  refine isInline_intercalate (by decide) (List.forall_mem_map.mpr fun w hw => ?_)
  have hword : IsSolid w := fun c hc => h c (mem_of_mem_pieces (List.mem_filter.mp hw).1 hc).1
  refine isInline_of_isSolid ?_
  rw [String.toList_ofList]
  exact hword.capitalize

/-- The types of one language start with these letters. -/
theorem Language.cppType_start (c : Column) :
    ∃ lead ∈ [['s'], ['i'], ['b'], ['n']], lead <+: (Language.cpp.columnType c).toList := by
  unfold columnType
  split
  · refine ⟨['s'], by decide, ?_⟩
    change ['s'] <+: ("std::optional<" ++ Language.cpp.nativeType c.category ++ ">").toList
    rw [String.append_assoc, String.toList_append]
    exact List.IsPrefix.trans (by decide) (List.prefix_append "std::optional<".toList _)
  · have hnative : ∀ category ∈ Category.all, ∃ lead ∈ [['s'], ['i'], ['b'], ['n']],
        lead <+: (Language.cpp.nativeType category).toList := by decide
    exact hnative c.category (Category.mem_all _)

namespace Blueprint

/-- The lines of an artifact on which the name of the service stands, where it is in all. -/
def titled (b : Blueprint) : List Line :=
  match b.language with
  | .go => b.opening ""
  | _ => []

/-- What the lines of an artifact are told by, besides that nothing breaks them. -/
structure Legible (b : Blueprint) : Prop extends b.Unbroken where
  title : b.typeName = Name.typeName b.table
  label : ∀ f ∈ b.fields, IsInline f.label
  type : ∀ f ∈ b.fields, IsInline f.type
  typeStart : b.language = .cpp → ∀ f ∈ b.fields,
    ∃ lead ∈ [['s'], ['i'], ['b'], ['n']], lead <+: f.type.toList

/-- The blueprint of a table that can be read line by line can be read so too, whatever the service
    is called. -/
theorem legible_ofTable (l : Language) (service : String) {t : Table} (h : t.Legible) :
    (ofTable l service t).Legible where
  toUnbroken := unbroken_ofTable l service h
  title := rfl
  label := List.forall_mem_map.mpr fun c hc => Name.isInline_label (h.keyedColumns c hc)
  type := List.forall_mem_map.mpr fun c _ => l.isInline_columnType c
  typeStart hl := by
    obtain rfl : l = .cpp := hl
    exact List.forall_mem_map.mpr fun c _ => Language.cppType_start c

/-- Every artifact starts with its opening. -/
theorem exists_opening {b : Blueprint} {kind : Kind} {ls : List Line}
    (h : b.lines? kind = some ls) : ∃ purpose rest, ls = b.opening purpose ++ rest := by
  unfold lines? modelLines contractLines storeLines mockLines wiringLines? at h
  cases kind <;> cases hl : b.language <;> rw [hl] at h <;>
    first
    | exact ⟨_, _, (Option.some.inj h).symm⟩
    | cases h

/-- An artifact that is made has a line. -/
theorem lines_ne_nil {b : Blueprint} {kind : Kind} {ls : List Line} (h : b.lines? kind = some ls) :
    ls ≠ [] := by
  obtain ⟨purpose, rest, rfl⟩ := exists_opening h
  unfold opening
  cases b.language <;> exact List.cons_ne_nil _ _

/-- Behind the name of the service, every line makes something known exactly where it is tagged
    so. -/
theorem Legible.told {b : Blueprint} (hb : b.Legible) {kind : Kind} {ls : List Line}
    (h : b.lines? kind = some ls) : ∃ tail, ls = b.titled ++ tail ∧ Told b.language tail := by
  have htext : ∀ f ∈ b.fields, IsInline f.label ∧ IsInline f.type :=
    fun f hf => ⟨hb.label f hf, hb.type f hf⟩
  unfold titled
  cases hl : b.language with
  | rust =>
    refine ⟨ls, rfl, ?_⟩
    cases kind <;>
      simp only [lines?, modelLines, contractLines, storeLines, mockLines, wiringLines?, hl,
        Option.some.injEq] at h <;> subst h
    · exact rustModel_told hb.toUnbroken hl htext
    · exact rustContract_told hb.toUnbroken hl
    · exact rustStore_told hb.toUnbroken hl
    · exact rustMock_told hb.toUnbroken hl hb.title
    · exact rustWiring_told hb.toUnbroken hl
  | cpp =>
    refine ⟨ls, rfl, ?_⟩
    cases kind <;>
      simp only [lines?, modelLines, contractLines, storeLines, mockLines, wiringLines?, hl,
        Option.some.injEq, reduceCtorEq] at h <;> subst h
    · exact cppModel_told hb.toUnbroken hl fun f hf =>
        ⟨hb.label f hf, hb.type f hf, hb.typeStart hl f hf⟩
    · exact cppContract_told hb.toUnbroken hl
    · exact cppStore_told hb.toUnbroken hl
    · exact cppMock_told hb.toUnbroken hl
  | python =>
    refine ⟨ls, rfl, ?_⟩
    cases kind <;>
      simp only [lines?, modelLines, contractLines, storeLines, mockLines, wiringLines?, hl,
        Option.some.injEq] at h <;> subst h
    · exact pythonModel_told hb.toUnbroken hl htext
    · exact pythonContract_told hb.toUnbroken hl
    · exact pythonStore_told hb.toUnbroken hl
    · exact pythonMock_told hb.toUnbroken hl
    · exact pythonWiring_told hb.toUnbroken hl
  | go =>
    cases kind <;>
      simp only [lines?, modelLines, contractLines, storeLines, mockLines, wiringLines?, hl,
        Option.some.injEq, reduceCtorEq] at h <;> subst h
    · exact goModel_told hb.toUnbroken htext
    · exact goContract_told hb.toUnbroken hl
    · exact goStore_told hb.toUnbroken hl
    · exact goMock_told hb.toUnbroken hl

/-- What is said of the service where its name stands in every artifact. -/
def clause (b : Blueprint) : String :=
  match b.language with
  | .go => "package " ++ b.package
  | _ => ""

/-- An import is no other line. -/
theorem count_other {l : Language} {s : String} (line : String)
    (hs : l.isImport (s.toList.dropWhile isBlank) = true)
    (hline : IsInline line ∧ l.isImport (line.toList.dropWhile isBlank) = false) :
    (lines line.toList).count s.toList = 0 := by
  rw [List.count_eq_zero, lines_of_inline hline.1, List.mem_singleton]
  intro hsame
  rw [hsame, hline.2] at hs
  cases hs

private theorem count_titled {b : Blueprint} {s : String}
    (hs : b.language.isImport (s.toList.dropWhile isBlank) = true) :
    (linesOf b.language b.titled).count s.toList = (lines b.clause.toList).count s.toList := by
  unfold titled clause
  cases hl : b.language with
  | rust | cpp | python =>
    rw [hl] at hs
    exact (count_other "" hs (by decide)).symm
  | go =>
    rw [hl] at hs
    have hnote := count_other "// Code generated by daogen. DO NOT EDIT." hs (by decide)
    have hgap := count_other "" hs (by decide)
    have hopening : linesOf .go (b.opening "") =
        lines "// Code generated by daogen. DO NOT EDIT.".toList ++ (lines "".toList ++
          (lines ("package " ++ b.package).toList ++ lines "".toList)) := by
      rw [opening, hl]
      simp [linesOf, written, Content.written, toString]
    rw [hopening]
    simp only [List.count_append, hnote, hgap, Nat.zero_add, Nat.add_zero]

variable {b : Blueprint} {kind : Kind} {ls : List Line}

/-- A line that makes a library known is in an artifact as often as it is tagged there, besides the
    lines on which the name of the service stands. -/
theorem Legible.count_render (hb : b.Legible) (h : b.lines? kind = some ls) {s : String}
    (hs : b.language.isImport (s.toList.dropWhile isBlank) = true) :
    (lines (render b.language ls).toList).count s.toList =
      (lines b.clause.toList).count s.toList +
        ((keep Content.isImports ls).map (written b.language)).count s := by
  have hne := lines_ne_nil h
  obtain ⟨tail, rfl, htail⟩ := hb.told h
  have htitled : keep Content.isImports b.titled = [] := by
    unfold titled opening
    cases b.language <;> rfl
  rw [keep_append, htitled, List.nil_append, ← count_linesOf htail hs, ← count_titled hs,
    ← List.count_append, ← linesOf_append, lines_render b.language hne]

/-- A line of an artifact that refers to a sibling is tagged so. -/
theorem Legible.exists_refers (hb : b.Legible) (h : b.lines? kind = some ls) {row : List Char}
    (hrow : row ∈ rows (render b.language ls).toList) (href : b.language.isReference row = true) :
    ∃ line ∈ keep Content.isRefers ls, row = line.content.written.toList := by
  rw [rows_render b.language (lines_ne_nil h)] at hrow
  obtain ⟨tail, htails, htail⟩ := hb.told h
  cases hl : b.language with
  | go =>
    rw [hl] at href
    cases href
  | rust | cpp | python =>
    rw [titled, hl, List.nil_append] at htails
    rw [← htails] at htail
    exact exists_refers_of_isReference htail hrow href

end Blueprint

end AccessLayer
