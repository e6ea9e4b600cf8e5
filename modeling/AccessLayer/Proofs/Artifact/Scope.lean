import AccessLayer.Proofs.Artifact.Clash
import AccessLayer.Proofs.Language.Names

namespace AccessLayer

open Text

/-- How a declaration begins: `keyword`, its name, which is the table's type with a lead and a
    trail, and `follow`. -/
structure Declaration where
  keyword : String
  lead : String
  trail : String
  follow : String
  deriving DecidableEq

namespace Declaration

variable (d e : Declaration)

/-- The name that is declared for entities of that type. -/
def name (model : String) : String := d.lead ++ model ++ d.trail

/-- The line that declares it, up to the end of the name. -/
def opening (model : String) : String := d.keyword ++ d.name model ++ d.follow

/-- One declaration has different names for different types. -/
theorem name_injective : Function.Injective d.name := by
  intro model other h
  exact (String.append_right_inj _).mp ((String.append_left_inj _).mp h)

/-- One of the leads starts with the other. -/
def Comparable : Prop := d.lead.toList <+: e.lead.toList ∨ e.lead.toList <+: d.lead.toList

instance : Decidable (Comparable d e) := inferInstanceAs (Decidable (_ ∨ _))

/-- The first begins with a small ASCII letter. The second begins with the type, and where that is
    empty, with no small letter. -/
def CaseApart : Prop :=
  startsSmall d.lead = true ∧ e.lead = "" ∧ startsSmall e.trail = false
where
  startsSmall (s : String) : Bool := s.toList.head?.any (inSpans smallSpans)

instance : Decidable (CaseApart d e) := inferInstanceAs (Decidable (_ ∧ _))

variable {d e}

/-- Names meet only where one lead starts with the other. -/
theorem comparable_of_name_eq {model other : String} (h : d.name model = e.name other) :
    Comparable d e := by
  have hlists := congrArg String.toList h
  simp only [name, String.toList_append, List.append_assoc] at hlists
  exact List.prefix_or_prefix_of_prefix ⟨_, hlists⟩ ⟨_, rfl⟩

/-- Types begin with no small letter, so names do not meet where one has a lead that does. -/
theorem CaseApart.name_ne (h : CaseApart d e) (model table : String) :
    d.name model ≠ e.name (Name.typeName table) := by
  obtain ⟨hd, he, htrail⟩ := h
  unfold CaseApart.startsSmall at hd htrail
  intro hsame
  have hlists := congrArg (List.head? ∘ String.toList) hsame
  simp only [Function.comp_apply, name, he, String.empty_append, String.toList_append,
    List.append_assoc] at hlists
  cases hlead : d.lead.toList with
  | nil => simp [hlead] at hd
  | cons c cs =>
    have hsmall : inSpans smallSpans c = true := by simpa [hlead] using hd
    have hlarge : inSpans smallSpans c = false := by
      cases hmodel : (Name.typeName table).toList with
      | nil =>
        rw [hlead, hmodel, List.cons_append, List.head?_cons, List.nil_append] at hlists
        rw [← hlists] at htrail
        exact htrail
      | cons first rest =>
        rw [hlead, hmodel, List.cons_append, List.head?_cons, List.cons_append] at hlists
        exact Name.head_typeName (by rw [hmodel]; exact hlists.symm)
    rw [hsmall] at hlarge
    cases hlarge

end Declaration

/-- What the artifacts of a table declare, in the languages where several tables share a package or
    namespaces. -/
def Language.declarations : Language → Kind → List Declaration
  | go, .model => [⟨"type ", "", "", " struct \x7b"⟩]
  | go, .contract => [⟨"type ", "", "DAO", " interface \x7b"⟩]
  | go, .store =>
    [⟨"", "sqlFind", "ByID", " = `"⟩, ⟨"", "sqlFindAll", "", "  = `"⟩,
      ⟨"", "sqlInsert", "", "   = `"⟩, ⟨"", "sqlUpdate", "", "   = `"⟩,
      ⟨"", "sqlDelete", "", "   = `"⟩, ⟨"type ", "pg", "DAO", " struct \x7b"⟩,
      ⟨"func ", "NewPg", "DAO", "(db *sqlx.DB) "⟩]
  | go, .mock => [⟨"type ", "Mock", "DAO", " struct \x7b"⟩, ⟨"func ", "NewMock", "DAO", "() *"⟩]
  | cpp, .model => [⟨"struct ", "", "", " \x7b"⟩]
  | cpp, .contract => [⟨"class ", "", "DAO", " \x7b"⟩]
  | cpp, .store => [⟨"class ", "Pg", "DAO", " : public "⟩]
  | cpp, .mock => [⟨"class ", "Mock", "DAO", " : public "⟩]
  | _, _ => []

/-- A package or a namespace that the artifacts of several tables share: the package of a service,
    the namespace of the models and that of the code that uses them. -/
inductive Scope
  | package
  | models
  | access
  deriving DecidableEq, Repr

namespace Scope

/-- The language whose declarations share the scope. -/
def language : Scope → Language
  | package => .go
  | models | access => .cpp

/-- The kinds of the artifacts whose declarations stand in the scope. -/
def kinds : Scope → List Kind
  | package => Kind.all
  | models => [.model]
  | access => [.contract, .store, .mock]

/-- The line by which a file joins the scope, in a service whose package is called `service`. -/
def heading (service : String) : Scope → String
  | package => "package " ++ service
  | models => "namespace models \x7b"
  | access => "namespace dao \x7b"

/-- What is declared for each table. -/
def declarations (s : Scope) : List Declaration := s.kinds.flatMap s.language.declarations

/-- What is declared in the scope for a table with the type `model`. -/
def names (s : Scope) (model : String) : List String := s.declarations.map (·.name model)

/-- What may stand before and behind a type so that one of its declarations is called like another
    declaration for the type without it: with `Mock` in front, the contract is called like the
    mock. -/
def marks : Scope → List (String × String)
  | package =>
    [("", "DAO"), ("NewPg", "DAO"), ("Mock", "DAO"), ("NewMock", "DAO"), ("NewPg", ""),
      ("Mock", ""), ("NewMock", "")]
  | models => []
  | access => [("Pg", ""), ("Mock", "")]

/-- Types are called alike, or the second like the first with a mark; or the statement that finds a
    row by its key for the one is called like the statement that finds all rows for the other. -/
def Overlap (s : Scope) (model other : String) : Prop :=
  model = other ∨ (∃ m ∈ s.marks, other = m.1 ++ model ++ m.2) ∨
    s = package ∧ model ++ "ByID" = "All" ++ other

instance (s : Scope) (model other : String) : Decidable (s.Overlap model other) :=
  inferInstanceAs (Decidable (_ ∨ _ ∨ _))

/-- Two tables with different names have types that overlap. -/
def Clash (s : Scope) (table other : String) : Prop :=
  table ≠ other ∧ s.Overlap (Name.typeName table) (Name.typeName other)

instance (s : Scope) (table other : String) : Decidable (s.Clash table other) :=
  inferInstanceAs (Decidable (_ ∧ _))

/-- What `e` is called for a type, `d` is called for the type with a mark around it. -/
def Marked (s : Scope) (d e : Declaration) : Prop :=
  d.lead = "" ∧ ∃ m ∈ s.marks, e.lead = m.1 ∧ e.trail = m.2 ++ d.trail

instance (s : Scope) (d e : Declaration) : Decidable (s.Marked d e) :=
  inferInstanceAs (Decidable (_ ∧ _))

/-- One is the statement that finds a row by its key, the other the one that finds all. -/
def Finding (s : Scope) (d e : Declaration) : Prop :=
  s = package ∧ (d.lead = "sqlFind" ∧ d.trail = "ByID") ∧ e.lead = "sqlFindAll" ∧ e.trail = ""

instance (s : Scope) (d e : Declaration) : Decidable (s.Finding d e) :=
  inferInstanceAs (Decidable (_ ∧ _))

private theorem comparable_cases (s : Scope) : ∀ d ∈ s.declarations, ∀ e ∈ s.declarations,
    d.Comparable e → (d.lead = e.lead ∧ d.trail = e.trail) ∨
      (s.Marked d e ∨ s.Marked e d) ∨ (s.Finding d e ∨ s.Finding e d) ∨
        d.CaseApart e ∨ e.CaseApart d := by
  cases s <;> decide +kernel

private theorem exists_marked (s : Scope) :
    ∀ m ∈ s.marks, ∃ d ∈ s.declarations, ∃ e ∈ s.declarations,
      d.lead = "" ∧ e.lead = m.1 ∧ e.trail = m.2 ++ d.trail := by
  cases s <;> decide +kernel

private theorem eq_of_comparable (s : Scope) : ∀ d ∈ s.declarations, ∀ e ∈ s.declarations,
    d.Comparable e → d.lead.length + d.trail.length = e.lead.length + e.trail.length → d = e := by
  cases s <;> decide +kernel

private theorem name_of_mark {d e : Declaration} {m : String × String} (hd : d.lead = "")
    (hlead : e.lead = m.1) (htrail : e.trail = m.2 ++ d.trail) (model : String) :
    e.name model = d.name (m.1 ++ model ++ m.2) := by
  simp only [Declaration.name, hd, hlead, htrail, String.empty_append, String.append_assoc]

private theorem Marked.overlap {s : Scope} {d e : Declaration} (h : s.Marked d e)
    {model other : String}
    (hsame : d.name model = e.name other) : s.Overlap other model := by
  obtain ⟨hd, m, hm, hlead, htrail⟩ := h
  rw [name_of_mark hd hlead htrail] at hsame
  exact Or.inr (Or.inl ⟨m, hm, d.name_injective hsame⟩)

/-- The two statements have one name when what stands behind their common lead is the same. -/
theorem Finding.name_eq_iff {s : Scope} {d e : Declaration} (h : s.Finding d e)
    {model other : String} : d.name model = e.name other ↔ model ++ "ByID" = "All" ++ other := by
  obtain ⟨-, ⟨hlead, htrail⟩, hlead', htrail'⟩ := h
  have hall : "sqlFindAll" = "sqlFind" ++ "All" := by decide
  rw [Declaration.name, Declaration.name, hlead, htrail, hlead', htrail', hall, String.append_empty,
    String.append_assoc, String.append_assoc, String.append_right_inj]

private theorem Finding.overlap {s : Scope} {d e : Declaration} (h : s.Finding d e)
    {model other : String}
    (hsame : d.name model = e.name other) : s.Overlap model other :=
  Or.inr (Or.inr ⟨h.1, h.name_eq_iff.mp hsame⟩)

private theorem exists_finding :
    ∃ d ∈ package.declarations, ∃ e ∈ package.declarations, package.Finding d e := by
  decide +kernel

private theorem Overlap.exists_common_name {s : Scope} {model other : String}
    (h : s.Overlap model other) :
    ∃ name ∈ s.names model, name ∈ s.names other := by
  rcases h with rfl | ⟨m, hm, rfl⟩ | ⟨rfl, hmeet⟩
  · obtain ⟨d, hd⟩ := List.exists_mem_of_ne_nil s.declarations (by cases s <;> decide)
    exact ⟨d.name model, List.mem_map_of_mem hd, List.mem_map_of_mem hd⟩
  · obtain ⟨d, hd, e, he, hfirst, hlead, htrail⟩ := exists_marked s m hm
    refine ⟨e.name model, List.mem_map_of_mem he, ?_⟩
    rw [name_of_mark hfirst hlead htrail]
    exact List.mem_map_of_mem hd
  · obtain ⟨d, hd, e, he, hfind⟩ := exists_finding
    refine ⟨d.name model, List.mem_map_of_mem hd, ?_⟩
    rw [hfind.name_eq_iff.mpr hmeet]
    exact List.mem_map_of_mem he

/-- Two tables declare a common name exactly when their types overlap. Only the type of a table
    tells its declarations from those of others, with what is put in front of it and behind it. -/
theorem exists_common_name_iff (s : Scope) (table other : String) :
    (∃ name ∈ s.names (Name.typeName table), name ∈ s.names (Name.typeName other)) ↔
      s.Overlap (Name.typeName table) (Name.typeName other) ∨
        s.Overlap (Name.typeName other) (Name.typeName table) := by
  constructor
  · rintro ⟨name, hname, hother⟩
    obtain ⟨d, hd, rfl⟩ := List.mem_map.mp hname
    obtain ⟨e, he, hsame⟩ := List.mem_map.mp hother
    rcases comparable_cases s d hd e he (Declaration.comparable_of_name_eq hsame.symm) with
      ⟨hlead, htrail⟩ | (hmark | hmark) | (hfind | hfind) | hcase | hcase
    · rw [Declaration.name, Declaration.name, hlead, htrail] at hsame
      exact Or.inr (Or.inl (e.name_injective (by simpa [Declaration.name] using hsame)))
    · exact Or.inr (hmark.overlap hsame.symm)
    · exact Or.inl (hmark.overlap hsame)
    · exact Or.inl (hfind.overlap hsame.symm)
    · exact Or.inr (hfind.overlap hsame)
    · exact absurd hsame.symm (hcase.name_ne _ _)
    · exact absurd hsame (hcase.name_ne _ _)
  · rintro (hoverlap | hoverlap)
    · exact hoverlap.exists_common_name
    · obtain ⟨name, hname, hother⟩ := hoverlap.exists_common_name
      exact ⟨name, hother, hname⟩

/-- Declarations of one table that might meet differ in length, so one type is enough to have its
    names apart. -/
theorem names_nodup (s : Scope) (model : String) : (s.names model).Nodup := by
  refine List.Nodup.map_on (fun d hd e he hsame => ?_) (by cases s <;> decide +kernel)
  have hlength := congrArg String.length hsame
  simp only [Declaration.name, String.length_append] at hlength
  exact eq_of_comparable s d hd e he (Declaration.comparable_of_name_eq hsame) (by omega)

/-- Tables with different names have the names of their declarations apart exactly when no two of
    them clash. -/
theorem names_nodup_iff (s : Scope) {tables : List Table}
    (hdistinct : (tables.map (·.name)).Nodup) :
    (tables.flatMap fun t => s.names (Name.typeName t.name)).Nodup ↔
      ∀ t ∈ tables, ∀ u ∈ tables, ¬ s.Clash t.name u.name := by
  refine nodup_flatMap_iff_no_clash hdistinct.of_map
    (fun t _ => ⟨s.names_nodup _, fun h => h.1 rfl⟩) fun t ht u hu hne => ?_
  have hname : t.name ≠ u.name := fun h => hne (List.inj_on_of_nodup_map hdistinct ht hu h)
  rw [exists_common_name_iff, Clash, Clash, and_iff_right hname, and_iff_right hname.symm]

end Scope

end AccessLayer
