import AccessLayer.Proofs.Artifact.Declared
import AccessLayer.Proofs.Artifact.Layout
import AccessLayer.Proofs.Artifact.Siblings

namespace AccessLayer

open Line Text AccessLayer.Tree

namespace Language

/-- The place named in a file is this target: a file in the same folder, or, in one language, a path
    from the output directory. -/
def LeadsTo (l : Language) (source : Path) (place : String) (target : Path) : Prop :=
  match l with
  | cpp => target = ⟨place⟩
  | _ => names target = (names source).dropLast ++ [place ++ "." ++ l.extension]

/-- What main declarations start with. -/
def keywords : Language → List String
  | rust => ["pub struct ", "pub trait "]
  | cpp => ["struct ", "class "]
  | python => ["class "]
  | go => []

/-- A line of the text declares this very name. -/
def Declares (l : Language) (text name : String) : Prop :=
  ∃ keyword ∈ l.keywords, ∃ trail, (keyword ++ name ++ trail).toList ∈ lines text.toList ∧
    trail.toList.head?.any (fun c => c == ' ' || c == ':' || c == '(') = true

/-- How a header calls what it takes from one that it includes. -/
def mention (l : Language) (model : String) : Kind → String
  | .model => "<models::" ++ l.symbol model .model ++ ">"
  | kind => " : public " ++ l.symbol model kind ++ " \x7b"

end Language

namespace Blueprint

variable {b : Blueprint} {kind : Kind} {ls : List Line}

/-- What the main declaration of a kind starts with, and what its name is followed by. -/
def mainHead (b : Blueprint) : Kind → String × String
  | .model =>
    match b.language with
    | .rust => ("pub struct ", " \x7b")
    | .cpp => ("struct ", " \x7b")
    | _ => ("class ", "(BaseModel):")
  | .contract =>
    match b.language with
    | .rust => ("pub trait ", ": Send + Sync \x7b")
    | .cpp => ("class ", " \x7b")
    | _ => ("class ", "(ABC):")
  | _ =>
    match b.language with
    | .rust => ("pub struct ", " \x7b")
    | .cpp => ("class ", b.language.mention b.typeName .contract)
    | _ => ("class ", "(" ++ b.symbol .contract ++ "):")

private theorem mainHead_mem (hl : b.language ≠ .go) (hkind : kind ≠ .wiring)
    (h : b.lines? kind = some ls) :
    (⟨0, .declares (b.mainHead kind).1 (b.symbol kind) (b.mainHead kind).2⟩ : Line) ∈ ls := by
  cases hlanguage : b.language with
  | go => exact absurd hlanguage hl
  | rust =>
    cases kind <;> try exact absurd rfl hkind
    all_goals
      simp only [lines?, modelLines, contractLines, storeLines, mockLines, hlanguage,
        Option.some.injEq] at h
      subst h
      simp [mainHead, hlanguage, rustModel, rustContract, rustStore, rustMock, rustMockBasics,
        sections, block]
  | cpp =>
    cases kind <;> try exact absurd rfl hkind
    all_goals
      simp only [lines?, modelLines, contractLines, storeLines, mockLines, hlanguage,
        Option.some.injEq] at h
      subst h
      simp [mainHead, hlanguage, cppModel, cppContract, cppStore, cppMock, symbol, Language.mention,
        sections, block, toString]
  | python =>
    cases kind <;> try exact absurd rfl hkind
    all_goals
      simp only [lines?, modelLines, contractLines, storeLines, mockLines, hlanguage,
        Option.some.injEq] at h
      subst h
      simp [mainHead, hlanguage, pythonModel, pythonContract, pythonStore, pythonMock,
        pythonMockStart, sections, block, toString]

/-- Every artifact but the wiring has its main declaration, on a line of its own. -/
theorem declares_symbol (hb : b.Unbroken) (hl : b.language ≠ .go) (hkind : kind ≠ .wiring)
    (h : b.lines? kind = some ls) : b.language.Declares (render b.language ls) (b.symbol kind) := by
  have hsymbol := hb.symbol
  have hhead : (b.mainHead kind).1 ∈ b.language.keywords ∧ IsInline (b.mainHead kind).1 ∧
      IsInline (b.mainHead kind).2 ∧
      (b.mainHead kind).2.toList.head?.any (fun c => c == ' ' || c == ':' || c == '(') = true := by
    have hname := isInline_of_isSolid hb.typeName
    unfold mainHead
    cases kind <;> cases hlanguage : b.language <;>
      first
      | exact absurd hlanguage hl
      | simp (disch := (refine notMem_ofList ?_; decide)) [Language.keywords, Language.mention,
          Language.symbol, isInline_of_notMem, hname, hsymbol]
  obtain ⟨hkeyword, hlead, htrail, hend⟩ := hhead
  have hinline : IsInline ((b.mainHead kind).1 ++ b.symbol kind ++ (b.mainHead kind).2) := by
    rw [isInline_append, isInline_append]
    exact ⟨⟨hlead, hsymbol kind⟩, htrail⟩
  refine ⟨_, hkeyword, _, ?_, hend⟩
  rw [lines_render b.language (lines_ne_nil h)]
  refine List.mem_flatMap.mpr ⟨_, mainHead_mem hl hkind h, ?_⟩
  rw [written_margin, Content.written, lines_of_inline hinline]
  exact List.mem_singleton_self _

/-- The signature of every operation is among those that the blueprint declares. -/
theorem exists_operation (l : Language) (service : String) (t : Table) (op : Operation) :
    ∃ d ∈ (ofTable l service t).operations, d.signature = (ofTable l service t).signature op := by
  have hmem := Operation.mem_all op
  exact ⟨_, List.mem_map.mpr ⟨op, hmem, rfl⟩, rfl⟩

private theorem mem_cppContract {d : Declared} (h : d ∈ b.operations) :
    (⟨1, .heads d.op "virtual " d.signature " = 0;"⟩ : Line) ∈ cppContract b := by
  refine List.mem_flatten.mpr ⟨_, List.mem_of_getElem? (i := 3) rfl, mem_indent ?_⟩
  exact List.mem_flatMap.mpr ⟨d, h, by simp⟩

/-- A header makes use of what it includes. A contract makes use of the model where it finds all
    entities, and what implements a contract derives from it. -/
theorem contains_mention (hl : b.language = .cpp)
    (hfind : ∃ d ∈ b.operations, d.signature = b.signature .findAll) (h : b.lines? kind = some ls)
    {target : Kind} (htarget : target ∈ b.language.targets kind) :
    Contains (render b.language ls) (b.language.mention b.typeName target) := by
  have hgo : b.language ≠ .go := by
    rw [hl]
    decide
  have hbase (kind : Kind)
      (htrail : (b.mainHead kind).2 = b.language.mention b.typeName .contract) :
      Contains (Content.declares (b.mainHead kind).1 (b.symbol kind) (b.mainHead kind).2).written
        (b.language.mention b.typeName .contract) :=
    ⟨(b.mainHead kind).1 ++ b.symbol kind, "", by
      rw [String.append_empty, Content.written, htrail]⟩
  cases kind with
  | model | wiring => simp [hl, Language.targets] at htarget
  | contract =>
    obtain rfl : target = .model := by simpa [hl, Language.targets] using htarget
    obtain ⟨d, hd, hsignature⟩ := hfind
    simp only [lines?, contractLines, hl, Option.some.injEq] at h
    subst h
    have hwritten : (Content.heads d.op "virtual " d.signature " = 0;").written =
        "virtual std::future<std::vector" ++ b.language.mention b.typeName .model ++
          "> find_all() = 0;" := by
      have hlead : "virtual " ++ "std::future<std::vector<models::" =
          "virtual std::future<std::vector" ++ "<models::" := by decide
      have htrail : ">> find_all()" ++ " = 0;" = ">" ++ "> find_all() = 0;" := by decide
      rw [hsignature, signature, hl]
      change "virtual " ++ ("std::future<std::vector<models::" ++ b.typeName ++ ">> find_all()") ++
        " = 0;" = _ ++ ("<models::" ++ b.typeName ++ ">") ++ _
      simp only [String.append_assoc]
      rw [htrail, ← String.append_assoc, hlead, String.append_assoc]
    exact (contains_render_of_mem b.language (mem_cppContract hd)).trans ⟨_, _, hwritten⟩
  | store | mock =>
    obtain rfl : target = .contract := by simpa [hl, Language.targets] using htarget
    have hmem := mainHead_mem hgo (by decide) h
    exact (contains_render_of_mem b.language hmem).trans (hbase _ (by simp [mainHead, hl]))

/-- Every line that is tagged so refers to a sibling. -/
theorem Legible.isReference_row (hb : b.Legible) (hl : b.language ≠ .go)
    (h : b.lines? kind = some ls) {content : Content} (hcontent : content ∈ b.siblings kind) :
    content.written.toList ∈ rows (render b.language ls).toList ∧
      b.language.isReference content.written.toList = true := by
  have hmem : (⟨0, content⟩ : Line) ∈ keep Content.isRefers ls := by
    rw [keep_refers hl h]
    exact List.mem_map_of_mem hcontent
  obtain ⟨hline, hrefers⟩ := List.mem_filter.mp hmem
  obtain ⟨tail, htails, htail⟩ := hb.told h
  have htitled : b.titled = [] := by
    unfold titled
    cases hlanguage : b.language <;> first | rfl | exact absurd hlanguage hl
  rw [htitled, List.nil_append] at htails
  rw [← htails] at htail
  have htold : content.Told b.language := htail _ hline
  cases content with
  | refers target lead place symbol trail =>
    obtain ⟨hinline, href⟩ := htold
    refine ⟨?_, href⟩
    rw [rows_render b.language (lines_ne_nil h)]
    refine List.mem_flatMap.mpr ⟨_, hline, ?_⟩
    rw [rows_of_not_mem hinline, Language.startsSolid_of_opens (Language.opens_of_isReference href)]
    exact List.mem_singleton_self _
  | text | imports | declares | heads | passes => cases hrefers

private theorem useSibling_mem (hl : b.language = .python) {target : Kind}
    (htarget : target ∈ Language.python.targets kind) : b.useSibling target ∈ b.siblings kind := by
  simp only [siblings, hl]
  exact List.mem_map_of_mem htarget

private theorem named_useSibling (hl : b.language = .python) (kind : Kind) :
    ∃ w ∈ b.language.wordings, ∃ place,
      w.named? (b.useSibling kind).written.toList = some (place, some (b.symbol kind)) := by
  have huse : b.useSibling kind = .refers kind "from ." (Language.python.moduleName kind)
      (some (" import ", b.symbol kind)) "" := by
    simp [useSibling, hl]
  have hplace : IsPlace (Language.python.moduleName kind).toList := by cases kind <;> decide
  have hmark : " import ".toList.head?.any isDelimiter = true := by decide
  rw [huse, hl]
  exact ⟨⟨"from .", some " import ", ""⟩, by decide, _, Wording.named?_refers kind _ hplace hmark⟩

/-- How a wiring ends that lists what the package exports. -/
def exportList (b : Blueprint) : String :=
  String.join ((["__all__ = ["] ++ ([Kind.model, .contract, .store, .mock].map fun kind =>
    "    " ++ ("\"" ++ b.symbol kind ++ "\",")) ++ ["]"]).map ("\n" ++ ·))

private def exportLines (b : Blueprint) : List Line :=
  block "__all__ = ["
    ([Kind.model, .contract, .store, .mock].map fun kind => (s!"\"{b.symbol kind}\"," : Line))
    "]"

private theorem below_exportLines (b : Blueprint) : below .python b.exportLines = b.exportList := by
  have hentry (kind : Kind) : written .python ⟨1, .text ("\"" ++ b.symbol kind ++ "\",")⟩ =
      "    " ++ ("\"" ++ b.symbol kind ++ "\",") := by
    have hne : (Content.text ("\"" ++ b.symbol kind ++ "\",")).written ≠ "" := by
      simp [Content.written]
    rw [written_of_ne_empty .python hne]
    rfl
  simp only [below, exportLines, block, exportList, List.map_cons, List.map_nil, List.map_append,
    indent, written_margin, Content.written]
  simp only [toString, hentry]
  rfl

private theorem render_pythonWiring (b : Blueprint) :
    ∃ before, render .python (pythonWiring b) = before ++ b.exportList := by
  have hsplit : ∃ front, front ≠ [] ∧ pythonWiring b = front ++ b.exportLines :=
    ⟨b.opening s!"`{b.table}` data access package" ++ ([b.useSibling .contract,
      b.useSibling .mock, b.useSibling .model, b.useSibling .store, ""] : List Line), by simp,
      by simp [pythonWiring, sections, exportLines]⟩
  obtain ⟨front, hne, hsplit⟩ := hsplit
  exact ⟨render .python front, by rw [hsplit, render_append .python hne, below_exportLines]⟩

/-- How every file starts that is in one package with all others. -/
def packageHead (package : String) : String :=
  "\n".intercalate ["// Code generated by daogen. DO NOT EDIT.", "", "package " ++ package, ""]

private theorem render_opening (hl : b.language = .go) (h : b.lines? kind = some ls) :
    ∃ rest, render .go ls = packageHead b.package ++ rest := by
  obtain ⟨purpose, rest, rfl⟩ := exists_opening h
  have hopening : render .go (b.opening purpose) = packageHead b.package := by
    simp only [opening, hl, render, List.map_cons, List.map_nil, written_margin, Content.written]
    rfl
  have hne : b.opening purpose ≠ [] := by simp [opening, hl]
  exact ⟨_, by rw [render_append .go hne, hopening]⟩

end Blueprint

namespace Language

variable {l : Language} {table : String}

/-- What is referred to has the name of a place. -/
theorem isPlace_place (h : IsName table.toList) {target : Kind} (htarget : target ≠ .wiring) :
    IsPlace (l.place table target).toList := by
  have htable : IsPlace table.toList := by
    intro c hc
    have hword := h.2 c hc
    simp only [isDelimiter, Bool.or_eq_false_iff, beq_eq_false_iff_ne]
    refine ⟨⟨⟨?_, ?_⟩, ?_⟩, ?_⟩ <;> rintro rfl <;> revert hword <;> decide
  cases l with
  | cpp =>
    cases target <;> try exact absurd rfl htarget
    all_goals
      simp only [place, fileName?, Option.getD_some, String.toList_append, isPlace_append, htable,
        true_and, and_true]
      decide
  | rust | python | go =>
    simp only [place]
    cases target <;> decide

private theorem join_headerFolder (kind : Kind) {file : String} (h : '/' ∉ file.toList) :
    Path.join ⟨headerFolder kind⟩ ⟨file⟩ = ⟨headerFolder kind ++ "/" ++ file⟩ := by
  have hrelative : Path.isAbsolute ⟨file⟩ = false := by
    rw [Path.isAbsolute, beq_eq_false_iff_ne]
    exact fun hhead => h (List.mem_of_head? hhead)
  have hfolder : ((headerFolder kind).isEmpty ||
      (headerFolder kind).toList.getLast? == some '/') = false := by
    cases kind <;> decide
  simp only [Path.join, hrelative, hfolder, Bool.false_eq_true, if_false]

/-- What is referred to is where its place says. -/
theorem leadsTo_place (hl : l ≠ .go) (h : IsName table.toList) {kind target : Kind}
    {source path : Path}
    (hsource : l.artifactPath? table kind = some source)
    (hpath : l.artifactPath? table target = some path) :
    l.LeadsTo source (l.place table target) path := by
  have hsteps := (l.artifactPath_names h kind).1
  have hsteps' := (l.artifactPath_names h target).1
  rw [hsource, Option.map_some] at hsteps
  rw [hpath, Option.map_some] at hsteps'
  cases l with
  | go => exact absurd rfl hl
  | rust | python =>
    simp only [LeadsTo, Option.some.inj hsteps, Option.some.inj hsteps']
    rfl
  | cpp =>
    obtain ⟨file, hfile, rfl⟩ := Option.map_eq_some_iff.mp hpath
    simp only [LeadsTo, place, hfile, Option.getD_some]
    exact join_headerFolder target (fileName_free h hfile).1

end Language

namespace Artifact

variable {l : Language} {service : String} {t : Table}

/-- The reference in a row of an artifact is to another of the artifacts, which declares what is
    meant by it. -/
def Resolves (l : Language) (model : String) (artifacts : List Artifact) (a : Artifact)
    (row : List Char) : Prop :=
  ∃ w ∈ l.wordings, ∃ place symbol, w.named? row = some (place, symbol) ∧
    ∃ target ∈ artifacts, target.kind ≠ a.kind ∧ l.LeadsTo a.path place target.path ∧
      l.Declares target.contents (l.symbol model target.kind) ∧
      (∀ s ∈ symbol, s = l.symbol model target.kind) ∧
      (l = .cpp → Contains a.contents (l.mention model target.kind))

/-- Every line that refers to a sibling leads to another artifact of the table, which declares what
    is meant. The name of the table is needed for its paths to be told apart. -/
theorem resolves_ofTable (hlegible : t.Legible) (hname : IsName t.name.toList) {a : Artifact}
    (ha : a ∈ ofTable l service t) {row : List Char} (hrow : row ∈ rows a.contents.toList)
    (href : l.isReference row = true) :
    a.Resolves l (Name.typeName t.name) (ofTable l service t) row := by
  have hl : l ≠ .go := by
    rintro rfl
    cases href
  have hb := Blueprint.legible_ofTable l service hlegible
  obtain ⟨ls, hsource, hls, hcontents⟩ := of_mem_ofTable ha
  rw [hcontents] at hrow
  obtain ⟨line, hline, rfl⟩ := hb.exists_refers hls hrow href
  rw [Blueprint.keep_refers hl hls] at hline
  obtain ⟨content, hcontent, rfl⟩ := List.mem_map.mp hline
  obtain ⟨target, htarget, lead, symbol, trail, rfl, hwording, hsymbol⟩ :=
    Blueprint.exists_target hcontent
  obtain ⟨hother, hmade⟩ := l.ne_of_mem_targets a.kind target htarget
  obtain ⟨path, ls', hpath, hls', hmem⟩ := exists_mem_ofTable l service t hmade
  refine ⟨_, hwording, l.place t.name target, symbol.map (·.2), ?_, _, hmem, hother,
    Language.leadsTo_place hl hname hsource hpath,
    Blueprint.declares_symbol hb.toUnbroken hl hmade hls', ?_, ?_⟩
  · have hmark := l.delimited_wordings _ hwording
    exact Wording.named?_refers _ _ (Language.isPlace_place hname hmade) hmark
  · intro s hs
    obtain ⟨named, hnamed, rfl⟩ := Option.map_eq_some_iff.mp hs
    exact hsymbol named hnamed
  · rintro rfl
    rw [hcontents]
    exact Blueprint.contains_mention rfl
      (Blueprint.exists_operation .cpp service t .findAll) hls htarget

/-- The artifact ends with a list of the names that it exports, and a reference brings each of them
    into scope. -/
def Exports (b : Blueprint) (a : Artifact) : Prop :=
  (∃ before, a.contents = before ++ b.exportList) ∧
    ∀ kind ∈ [Kind.model, .contract, .store, .mock], ∃ row ∈ rows a.contents.toList,
      b.language.isReference row = true ∧
        ∃ w ∈ b.language.wordings, ∃ place, w.named? row = some (place, some (b.symbol kind))

/-- The package of a table exports the main declarations of its modules and nothing else. -/
theorem exports_ofTable (hlegible : t.Legible) {a : Artifact} (ha : a ∈ ofTable .python service t)
    (hkind : a.kind = .wiring) : a.Exports (.ofTable .python service t) := by
  have hb := Blueprint.legible_ofTable .python service hlegible
  obtain ⟨ls, -, hls, hcontents⟩ := of_mem_ofTable ha
  rw [hkind] at hls
  constructor
  · obtain ⟨before, hbefore⟩ := (Blueprint.ofTable .python service t).render_pythonWiring
    obtain rfl : (Blueprint.ofTable .python service t).pythonWiring = ls := Option.some.inj hls
    exact ⟨before, by rw [hcontents, hbefore]⟩
  · intro kind hmem
    have htarget : kind ∈ Language.python.targets .wiring := by
      revert hmem
      cases kind <;> decide
    obtain ⟨hrow, href⟩ := hb.isReference_row (fun hl => nomatch hl) hls
      (Blueprint.useSibling_mem rfl htarget)
    rw [hcontents]
    exact ⟨_, hrow, href, Blueprint.named_useSibling rfl kind⟩

end Artifact

namespace Blueprint

/-- The artifacts of a table of a schema find each other: what refers to a sibling names the path of
    another artifact of the table, and what is meant by it is declared there under that very name.
    What a package exports is brought into scope so. In the language without such references, every
    file of every table starts with the same clause for the package. -/
theorem references_resolve (l : Language) (service text : String) (t : Table)
    (ht : t ∈ readSchema text) :
    ∃ artifacts, (Emitter.builtIn l service).emitAll t = .ok artifacts ∧
      (∀ a ∈ artifacts, ∀ row ∈ rows a.contents.toList, l.isReference row = true →
        a.Resolves l (Name.typeName t.name) artifacts row) ∧
      (l = .python → ∀ a ∈ artifacts, a.kind = .wiring → a.Exports (ofTable l service t)) ∧
      (l = .go → ∀ a ∈ artifacts, ∃ rest,
        a.contents = packageHead (l.packageName service) ++ rest) := by
  have hlegible := legible_of_mem_readSchema ht
  refine ⟨_, Emitter.emitAll_builtIn l service t, fun a ha row hrow href => ?_, ?_, ?_⟩
  · exact Artifact.resolves_ofTable hlegible (isName_of_mem_readSchema ht) ha hrow href
  · rintro rfl a ha hkind
    exact Artifact.exports_ofTable hlegible ha hkind
  · rintro rfl a ha
    obtain ⟨ls, -, hls, hcontents⟩ := Artifact.of_mem_ofTable ha
    obtain ⟨rest, hrest⟩ := render_opening rfl hls
    exact ⟨rest, hcontents.trans hrest⟩

/-- A table of which one row of the wiring is followed. -/
def accounts : Table := ⟨"accounts", [⟨"id", .uuid, true, true, none⟩]⟩

/-- The module of a table leads to its contract, which declares the trait that the module
    publishes. -/
theorem references_resolve_accounts :
    accounts ∈ readSchema "CREATE TABLE accounts (id UUID PRIMARY KEY);" ∧
      ∃ artifacts, (Emitter.builtIn .rust "service").emitAll accounts = .ok artifacts ∧
        ∃ a ∈ artifacts, a.kind = .wiring ∧
          "pub use dao::AccountsDao;".toList ∈ rows a.contents.toList ∧
            ∃ target ∈ artifacts, Language.rust.LeadsTo a.path "dao" target.path ∧
              Language.rust.Declares target.contents "AccountsDao" := by
  have hmem : accounts ∈ readSchema "CREATE TABLE accounts (id UUID PRIMARY KEY);" := by
    decide +kernel
  obtain ⟨artifacts, hemitted, hresolves, -⟩ := references_resolve .rust "service" _ accounts hmem
  have hartifacts := hemitted
  rw [Emitter.emitAll_builtIn, Except.ok.injEq] at hartifacts
  have hwiring : ∃ a ∈ Artifact.ofTable .rust "service" accounts, a.kind = .wiring := by
    decide +kernel
  rw [hartifacts] at hwiring
  obtain ⟨a, ha, hkind⟩ := hwiring
  have hrow : "pub use dao::AccountsDao;".toList ∈ rows a.contents.toList := by
    rw [← hartifacts] at ha
    obtain ⟨ls, -, hls, hcontents⟩ := Artifact.of_mem_ofTable ha
    rw [hkind] at hls
    have hb := legible_ofTable .rust "service" (legible_of_mem_readSchema hmem)
    have hwritten : (Content.refers .contract "pub use " "dao"
        (some ("::", (ofTable .rust "service" accounts).symbol .contract)) ";").written =
          "pub use dao::AccountsDao;" := by
      decide +kernel
    rw [hcontents, ← hwritten]
    refine (hb.isReference_row (fun hl => nomatch hl) hls ?_).1
    exact List.mem_append_right _ (List.mem_map_of_mem (by decide))
  obtain ⟨w, hw, place, symbol, hnamed, target, htarget, -, hleads, hdeclares, hsymbol, -⟩ :=
    hresolves a ha _ hrow (by decide)
  have hread : ∀ w ∈ Language.rust.wordings, w.named? "pub use dao::AccountsDao;".toList = none ∨
      w.named? "pub use dao::AccountsDao;".toList = some ("dao", some "AccountsDao") := by
    decide
  have hsame : (place, symbol) = ("dao", some "AccountsDao") := by
    rcases hread w hw with hnone | hsome
    · rw [hnone] at hnamed
      cases hnamed
    · rw [hsome] at hnamed
      exact (Option.some.inj hnamed).symm
  obtain ⟨rfl, rfl⟩ := Prod.mk.inj hsame
  refine ⟨hmem, artifacts, hemitted, a, ha, hkind, hrow, target, htarget, hleads, ?_⟩
  rwa [← hsymbol _ rfl] at hdeclares

end Blueprint

end AccessLayer
