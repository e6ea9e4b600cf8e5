import AccessLayer.Proofs.Artifact.Scope
import AccessLayer.Proofs.Source.Line
import Mathlib.Data.List.Forall2

namespace AccessLayer

open Line

/-- What is declared, between what stands before and behind its name. -/
def Content.declares? : Content → Option (String × String × String)
  | declares lead name trail => some (lead, name, trail)
  | _ => none

/-- The parts of a line begin the declaration for tables with the type `model`. -/
def Declaration.Begins (model : String) (parts : String × String × String) (d : Declaration) :
    Prop :=
  parts.1 = d.keyword ∧ parts.2.1 = d.name model ∧ ∃ rest, parts.2.2 = d.follow ++ rest

namespace Blueprint

variable (b : Blueprint)

private theorem declares_opening (purpose : String) :
    gather Content.declares? (b.opening purpose) = [] := by
  unfold opening
  cases b.language <;> rfl

private theorem declares_keyImports : gather Content.declares? b.keyImports = [] := by
  unfold keyImports
  cases b.language <;> simp [Content.declares?]

private theorem declares_goModel :
    gather Content.declares? (goModel b) = [("type ", b.symbol .model, " struct \x7b")] := by
  simp [goModel, goField, declares_opening, Content.declares?]

private theorem declares_goContract :
    gather Content.declares? (goContract b) = [("type ", b.symbol .contract, " interface \x7b")] := by
  simp [goContract, importBlock, declares_opening, declares_keyImports, Content.declares?]

private theorem declares_goStoreMethod (op : Operation) :
    gather Content.declares? (goStoreMethod b op) = [] := by
  cases op <;>
    simp [goStoreMethod, goBody, goEntry, goFailed, Content.declares?]

private theorem declares_goStore :
    gather Content.declares? (goStore b) =
      [("", "sqlFind" ++ b.typeName ++ "ByID", " = `" ++ b.queries.findById.text ++ "`"),
        ("", "sqlFindAll" ++ b.typeName, "  = `" ++ b.queries.findAll.text ++ "`"),
        ("", "sqlInsert" ++ b.typeName, "   = `" ++ b.queries.insert.text ++ "`"),
        ("", "sqlUpdate" ++ b.typeName, "   = `" ++ b.queries.update.text ++ "`"),
        ("", "sqlDelete" ++ b.typeName, "   = `" ++ b.queries.delete.text ++ "`"),
        ("type ", b.symbol .store, " struct \x7b"),
        ("func ", "NewPg" ++ b.symbol .contract,
          "(db *sqlx.DB) " ++ b.symbol .contract ++ " \x7b")] := by
  simp [goStore, importBlock, goConstant, statementName, declares_goStoreMethod, Operation.all,
    List.intercalate, declares_opening, declares_keyImports, Content.declares?, toString]

private theorem declares_goMock :
    gather Content.declares? (goMock b) =
      [("type ", b.symbol .mock, " struct \x7b"),
        ("func ", "New" ++ b.symbol .mock, "() *" ++ b.symbol .mock ++ " \x7b")] := by
  simp [goMock, importBlock, goMockMethod, goMockBody, goReadLock, goWriteLock, Operation.all,
    List.intercalate, declares_opening, declares_keyImports, Content.declares?, toString]

private theorem declares_cppModel :
    gather Content.declares? (cppModel b) = [("struct ", b.symbol .model, " \x7b")] := by
  simp [cppModel, cppField, declares_opening, Content.declares?]

private theorem declares_cppContract :
    gather Content.declares? (cppContract b) = [("class ", b.symbol .contract, " \x7b")] := by
  simp [cppContract, includeSibling, declares_opening, Content.declares?]

private theorem declares_cppCall (start : String) (values : List String) :
    gather Content.declares? (cppCall start values) = [] := by
  simp [cppCall, Content.declares?, -List.map_dropLast]

private theorem declares_cppStoreMethod (op : Operation) :
    gather Content.declares? (cppStoreMethod b op) = [] := by
  cases op <;>
    simp [cppStoreMethod, cppTask, cppLockAndBegin, cppCommit, declares_cppCall, Content.declares?]

private theorem declares_cppStore :
    gather Content.declares? (cppStore b) =
      [("class ", b.symbol .store, " : public " ++ b.symbol .contract ++ " \x7b")] := by
  simp [cppStore, includeSibling, timestampHelpers, cppConstant, declares_cppStoreMethod,
    Operation.all, List.intercalate, declares_opening, Content.declares?, toString]

private theorem declares_cppMock :
    gather Content.declares? (cppMock b) =
      [("class ", b.symbol .mock, " : public " ++ b.symbol .contract ++ " \x7b")] := by
  simp [cppMock, includeSibling, cppMockMethod, cppMockBody, cppReady, cppGuard, Operation.all,
    List.intercalate, declares_opening, Content.declares?, toString]

/-- What is declared in an artifact of a shared scope, part by part. -/
theorem begins_declarations {s : Scope} (hl : b.language = s.language) :
    ∀ kind ∈ s.kinds, List.Forall₂ (Declaration.Begins b.typeName)
      (gather Content.declares? ((b.lines? kind).getD [])) (s.language.declarations kind) := by
  have hend (follow : String) : ∃ rest, follow = follow ++ rest := ⟨"", by simp⟩
  have hnew (model : String) : "New" ++ ("Mock" ++ model) = "NewMock" ++ model := by
    have hmark : "New" ++ "Mock" = "NewMock" := by decide
    rw [← String.append_assoc, hmark]
  cases s with
  | package =>
    have hgo : b.language = .go := hl
    intro kind _
    cases kind <;>
      simp [lines?, modelLines, contractLines, storeLines, mockLines, wiringLines?, hgo,
        declares_goModel, declares_goContract, declares_goStore, declares_goMock, symbol,
        Scope.language, Language.symbol, Language.declarations, Declaration.Begins,
        Declaration.name, String.append_assoc, hend, hnew]
  | models =>
    have hcpp : b.language = .cpp := hl
    simp [Scope.kinds, lines?, modelLines, hcpp, declares_cppModel, symbol, Scope.language,
      Language.symbol, Language.declarations, Declaration.Begins, Declaration.name, hend]
  | access =>
    have hcpp : b.language = .cpp := hl
    simp [Scope.kinds, lines?, contractLines, storeLines, mockLines, hcpp, declares_cppContract,
      declares_cppStore, declares_cppMock, symbol, Scope.language, Language.symbol,
      Language.declarations, Declaration.Begins, Declaration.name, String.append_assoc, hend]

/-- Every artifact of a shared scope says that it belongs there. -/
theorem heading_mem {s : Scope} (hl : b.language = s.language) {kind : Kind}
    (hkind : kind ∈ s.kinds) (hmade : kind ≠ .wiring) :
    (⟨0, .text (s.heading b.package)⟩ : Line) ∈ (b.lines? kind).getD [] := by
  cases s with
  | package =>
    have hgo : b.language = .go := hl
    cases kind with
    | wiring => exact absurd rfl hmade
    | model | contract | store | mock =>
      simp [lines?, modelLines, contractLines, storeLines, mockLines, hgo, goModel, goContract,
        goStore, goMock, opening, sections, Scope.heading, toString]
  | models =>
    have hcpp : b.language = .cpp := hl
    obtain rfl : kind = .model := by simpa [Scope.kinds] using hkind
    simp [lines?, modelLines, hcpp, cppModel, sections, Scope.heading]
  | access =>
    have hcpp : b.language = .cpp := hl
    obtain rfl | rfl | rfl : kind = .contract ∨ kind = .store ∨ kind = .mock := by
      simpa [Scope.kinds] using hkind
    all_goals
      simp [lines?, contractLines, storeLines, mockLines, hcpp, cppContract, cppStore, cppMock,
        sections, Scope.heading]

end Blueprint

namespace Scope

/-- What the artifacts of a table declare in the scope. -/
def declared (s : Scope) (b : Blueprint) : List String :=
  s.kinds.flatMap fun kind => Line.declared ((b.lines? kind).getD [])

variable {s : Scope} {b : Blueprint}

/-- The names that are declared are the names of the scope for the type of the table. -/
theorem declared_eq_names (hl : b.language = s.language) : s.declared b = s.names b.typeName := by
  have hkind : ∀ kind ∈ s.kinds, Line.declared ((b.lines? kind).getD []) =
      (s.language.declarations kind).map (·.name b.typeName) := by
    intro kind hkind
    have hparts : Line.declared ((b.lines? kind).getD []) =
        (gather Content.declares? ((b.lines? kind).getD [])).map (·.2.1) := by
      rw [gather, List.map_filterMap]
      unfold Line.declared
      congr 1
      funext line
      cases line.content <;> rfl
    rw [hparts, ← List.forall₂_eq_eq_eq, List.forall₂_map_left_iff, List.forall₂_map_right_iff]
    exact (b.begins_declarations hl kind hkind).imp fun _ _ h => h.2.1
  rw [declared, names, declarations, List.map_flatMap]
  exact List.flatMap_congr hkind

private theorem exists_mem_of_forall₂ {α β : Type} {R : α → β → Prop} {xs : List α} {ys : List β}
    (h : List.Forall₂ R xs ys) {y : β} (hy : y ∈ ys) : ∃ x ∈ xs, R x y := by
  induction h with
  | nil => cases hy
  | cons hfirst _ ih =>
    rcases List.mem_cons.mp hy with rfl | hrest
    · exact ⟨_, List.mem_cons_self, hfirst⟩
    · obtain ⟨x, hx, hR⟩ := ih hrest
      exact ⟨x, List.mem_cons_of_mem _ hx, hR⟩

/-- Each declaration of the scope is written in the artifact that it belongs to. -/
theorem contains_opening (hl : b.language = s.language) {kind : Kind} (hkind : kind ∈ s.kinds)
    {d : Declaration} (hd : d ∈ s.language.declarations kind) :
    Contains (render b.language ((b.lines? kind).getD [])) (d.opening b.typeName) := by
  obtain ⟨parts, hparts, hlead, hname, rest, hrest⟩ :=
    exists_mem_of_forall₂ (b.begins_declarations hl kind hkind) hd
  obtain ⟨line, hline, hcontent⟩ := (mem_gather _ _).mp hparts
  have hwritten : line.content.written = d.opening b.typeName ++ rest := by
    obtain ⟨lead, name, trail⟩ := parts
    obtain hdeclares : line.content = .declares lead name trail := by
      revert hcontent
      cases line.content <;> simp [Content.declares?]
    simp only at hlead hname hrest
    rw [hdeclares, Content.written, Declaration.opening, hlead, hname, hrest]
    simp only [String.append_assoc]
  have hcontains := contains_render_of_mem b.language hline
  rw [hwritten] at hcontains
  exact hcontains.trans ⟨"", rest, by rw [String.empty_append]⟩

/-- The artifacts of a table join the scope and have the table's declarations. -/
theorem exists_artifact_of_declaration (s : Scope) (service : String) (t : Table) {kind : Kind}
    (hkind : kind ∈ s.kinds) {d : Declaration} (hd : d ∈ s.language.declarations kind) :
    ∃ a ∈ Artifact.ofTable s.language service t, a.table = t.name ∧ a.kind = kind ∧
      Contains a.contents (s.heading (s.language.packageName service)) ∧
        Contains a.contents (d.opening (Name.typeName t.name)) := by
  have hmade : kind ≠ .wiring := by
    rintro rfl
    cases s <;> cases hd
  obtain ⟨path, ls, -, hlines, hmem⟩ := Artifact.exists_mem_ofTable s.language service t hmade
  have hheading := contains_render_of_mem s.language
    ((Blueprint.ofTable s.language service t).heading_mem rfl hkind hmade)
  have hopening := contains_opening (b := .ofTable s.language service t) rfl hkind hd
  rw [hlines] at hheading hopening
  exact ⟨_, hmem, rfl, rfl, hheading, hopening⟩

/-- The declarations of tables with different names are told apart, in a package or namespace that
    they share, exactly when no two tables clash. Each is written in an artifact of its table that
    joins the scope, under a name that comes from the table's type. Types are told apart in plain
    snake case, and where names are in ASCII, exactly when the skeletons of the names are. -/
theorem declarations_distinct_iff_no_clash (s : Scope) (service text : String)
    (hdistinct : ((readSchema text).map (·.name)).Nodup) :
    (((readSchema text).flatMap fun t => s.declared (.ofTable s.language service t)).Nodup ↔
        ∀ t ∈ readSchema text, ∀ u ∈ readSchema text, ¬ s.Clash t.name u.name) ∧
      (∃ emitted,
        (readSchema text).mapM (Emitter.builtIn s.language service).emitAll = .ok emitted ∧
        ∀ t ∈ readSchema text,
          s.declared (.ofTable s.language service t) = s.names (Name.typeName t.name) ∧
          ∀ kind ∈ s.kinds, ∀ d ∈ s.language.declarations kind, ∃ a ∈ emitted.flatten,
            a.table = t.name ∧ a.kind = kind ∧
              Contains a.contents (s.heading (s.language.packageName service)) ∧
                Contains a.contents (d.opening (Name.typeName t.name))) ∧
      ((∀ t ∈ readSchema text, Name.IsSnake t.name.toList) →
        ((readSchema text).map fun t => Name.typeName t.name).Nodup) ∧
      ((∀ t ∈ readSchema text, Name.IsAscii t.name.toList) →
        (((readSchema text).map fun t => Name.typeName t.name).Nodup ↔
          ((readSchema text).map fun t => Name.skeleton t.name.toList).Nodup)) := by
  have hnames (t : Table) :
      s.declared (.ofTable s.language service t) = s.names (Name.typeName t.name) :=
    declared_eq_names rfl
  refine ⟨?_, ⟨_, Emitter.mapM_emitAll_builtIn s.language service (readSchema text), ?_⟩, ?_, ?_⟩
  · simp only [hnames]
    exact s.names_nodup_iff hdistinct
  · intro t ht
    refine ⟨hnames t, fun kind hkind d hd => ?_⟩
    obtain ⟨a, ha, hwritten⟩ := s.exists_artifact_of_declaration service t hkind hd
    exact ⟨a, List.mem_flatten.mpr ⟨_, List.mem_map_of_mem ht, ha⟩, hwritten⟩
  · intro hsnake
    refine hdistinct.of_map.map_on fun t ht u hu hsame => ?_
    exact List.inj_on_of_nodup_map hdistinct ht hu
      (Name.typeName_injective_of_snake (hsnake t ht) (hsnake u hu) hsame)
  · intro hascii
    rw [List.nodup_map_iff_inj_on hdistinct.of_map, List.nodup_map_iff_inj_on hdistinct.of_map]
    constructor
    · intro hinj t ht u hu hsame
      exact hinj t ht u hu ((Name.typeName_eq_iff (hascii t ht) (hascii u hu)).mpr hsame)
    · intro hinj t ht u hu hsame
      exact hinj t ht u hu ((Name.typeName_eq_iff (hascii t ht) (hascii u hu)).mp hsame)

/-- A schema whose tables are named in plain snake case. -/
def snakeText : String := "CREATE TABLE users (id UUID);CREATE TABLE user_orders (id UUID);"

/-- Three tables whose names have words in common share a package, in which one of them has its
    mock. -/
theorem declarations_distinct_iff_no_clash_orders :
    ((readSchema snakeText).map (·.name)).Nodup ∧
      ((readSchema snakeText).map fun t => Name.typeName t.name).Nodup ∧
      ((readSchema snakeText).flatMap fun t => package.declared (.ofTable .go "shop" t)).Nodup ∧
      ∃ emitted, (readSchema snakeText).mapM (Emitter.builtIn .go "shop").emitAll = .ok emitted ∧
        ∃ a ∈ emitted.flatten, a.table = "user_orders" ∧ a.kind = .mock ∧
          Contains a.contents "package shop" ∧
            Contains a.contents "func NewMockUserOrdersDAO() *" := by
  have hdistinct : ((readSchema snakeText).map (·.name)).Nodup := by decide +kernel
  have horders : ⟨"user_orders", [⟨"id", .uuid, true, false, none⟩]⟩ ∈ readSchema snakeText := by
    decide +kernel
  obtain ⟨hiff, ⟨emitted, hemitted, hwritten⟩, hsnake, -⟩ :=
    declarations_distinct_iff_no_clash package "shop" snakeText hdistinct
  obtain ⟨-, hdeclared⟩ := hwritten _ horders
  refine ⟨hdistinct, hsnake (by decide +kernel), hiff.mpr (by decide +kernel), emitted, hemitted, ?_⟩
  exact hdeclared .mock (by decide) ⟨"func ", "NewMock", "DAO", "() *"⟩ (by decide)

/-- A schema with two tables that only the number of underscores tells apart. -/
def doubledText : String := "CREATE TABLE a_b (id UUID);CREATE TABLE a__b (id UUID);"

/-- Words are run together without a trace of what stood between them. -/
theorem doubled_underscore_shares_declarations :
    ((readSchema doubledText).map (·.name)).Nodup ∧
      (readSchema doubledText).map (fun t => Name.typeName t.name) = ["AB", "AB"] ∧
      ∀ s : Scope, ¬ ((readSchema doubledText).flatMap fun t =>
        s.declared (.ofTable s.language "service" t)).Nodup := by
  have hschema : readSchema doubledText = [⟨"a_b", [⟨"id", .uuid, true, false, none⟩]⟩,
      ⟨"a__b", [⟨"id", .uuid, true, false, none⟩]⟩] := by
    decide +kernel
  refine ⟨by decide +kernel, by decide +kernel, fun s => ?_⟩
  rw [hschema]
  cases s <;> decide +kernel

end Scope

end AccessLayer
