import AccessLayer.Proofs.Artifact.Dependency

namespace AccessLayer

open Line Text

/-- What ends the name of a place. -/
def isDelimiter (c : Char) : Bool := c == ' ' || c == ':' || c == ';' || c == '"'

/-- Nothing in the text ends the name of a place. -/
def IsPlace (cs : List Char) : Prop := ∀ c ∈ cs, isDelimiter c = false

instance : DecidablePred IsPlace := fun cs =>
  decidable_of_iff (cs.all (!isDelimiter ·) = true) (by simp [IsPlace])

/-- A place is made of characters that end no name, so its parts are too. -/
theorem isPlace_append (cs ds : List Char) : IsPlace (cs ++ ds) ↔ IsPlace cs ∧ IsPlace ds :=
  List.forall_mem_append

/-- How a reference is worded: what stands before the place, between it and the symbol, where one is
    named, and at the end. -/
structure Wording where
  lead : String
  joint : Option String
  trail : String
  deriving DecidableEq, Repr

/-- The place and the symbol that are named in a line so worded. -/
def Wording.named? (w : Wording) (row : List Char) : Option (String × Option String) := do
  let rest ← w.lead.toList.isPrefixOf? row
  let place := String.ofList (rest.takeWhile (!isDelimiter ·))
  let behind := rest.dropWhile (!isDelimiter ·)
  match w.joint with
  | none => if behind = w.trail.toList then some (place, none) else none
  | some joint =>
    let rest ← joint.toList.isPrefixOf? behind
    let symbol ← w.trail.toList.isSuffixOf? rest
    some (place, some (String.ofList symbol))

namespace Language

/-- How a language words its references. -/
def wordings : Language → List Wording
  | rust =>
    [⟨"use super::", some "::", ";"⟩, ⟨"pub use ", some "::", ";"⟩, ⟨"pub mod ", none, ";"⟩]
  | cpp => [⟨"#include \"", none, "\""⟩]
  | python => [⟨"from .", some " import ", ""⟩]
  | go => []

/-- What stands behind a place starts with what ends its name. -/
theorem delimited_wordings (l : Language) : ∀ w ∈ l.wordings,
    (w.joint.getD w.trail).toList.head?.any isDelimiter = true := by
  cases l <;> decide

/-- How the artifact of a kind is called where it is referred to. -/
def place (l : Language) (table : String) (kind : Kind) : String :=
  match l with
  | cpp => headerFolder kind ++ "/" ++ (l.fileName? table kind).getD ""
  | _ => l.moduleName kind

/-- The kinds whose artifacts are referred to in that of a kind, in their order. -/
def targets : Language → Kind → List Kind
  | go, _ | _, .model | cpp, .wiring => []
  | _, .contract => [.model]
  | cpp, .store | cpp, .mock => [.contract]
  | _, .store | _, .mock => [.contract, .model]
  | _, .wiring => [.contract, .mock, .model, .store]

/-- An artifact refers to others than itself, and none to the wiring. -/
theorem ne_of_mem_targets (l : Language) (kind : Kind) :
    ∀ target ∈ l.targets kind, target ≠ kind ∧ target ≠ .wiring := by
  cases l <;> cases kind <;> decide

end Language

private theorem isPrefixOf?_append (cs ds : List Char) : cs.isPrefixOf? (cs ++ ds) = some ds :=
  List.isPrefixOf?_eq_some_iff_append_eq.mpr rfl

private theorem isSuffixOf?_append (cs ds : List Char) : ds.isSuffixOf? (cs ++ ds) = some cs :=
  List.isSuffixOf?_eq_some_iff_append_eq.mpr rfl

private theorem takeWhile_place {place : List Char} (mark : List Char)
    (hplace : IsPlace place) (hmark : mark.head?.any isDelimiter = true)
    (rest : List Char) :
    (place ++ (mark ++ rest)).takeWhile (!isDelimiter ·) = place ∧
      (place ++ (mark ++ rest)).dropWhile (!isDelimiter ·) = mark ++ rest := by
  have hfree : ∀ c ∈ place, (!isDelimiter c) = true := fun c hc => by rw [hplace c hc]; rfl
  rw [List.takeWhile_append_of_pos hfree, List.dropWhile_append_of_pos hfree]
  cases mark with
  | nil => cases hmark
  | cons c cs =>
    have hc : isDelimiter c = true := hmark
    simp [hc]

/-- The place and the symbol are read back from a reference. The place ends at the first
    delimiter. -/
theorem Wording.named?_refers (kind : Kind) {lead place trail : String}
    (symbol : Option (String × String)) (hplace : IsPlace place.toList)
    (hmark : ((symbol.map (·.1)).getD trail).toList.head?.any isDelimiter = true) :
    (⟨lead, symbol.map (·.1), trail⟩ : Wording).named?
        (Content.refers kind lead place symbol trail).written.toList =
      some (place, symbol.map (·.2)) := by
  cases symbol with
  | none =>
    obtain ⟨htake, hdrop⟩ := takeWhile_place trail.toList hplace hmark []
    rw [List.append_nil] at htake hdrop
    simp [named?, Content.written, isPrefixOf?_append, htake, hdrop]
  | some named =>
    obtain ⟨joint, name⟩ := named
    obtain ⟨htake, hdrop⟩ := takeWhile_place joint.toList hplace hmark
      (name.toList ++ trail.toList)
    simp [named?, Content.written, isPrefixOf?_append, isSuffixOf?_append, htake, hdrop]

namespace Blueprint

variable {b : Blueprint} {kind : Kind} {ls : List Line}

/-- The references of an artifact to others. -/
def siblings (b : Blueprint) (kind : Kind) : List Content :=
  let targets := b.language.targets kind
  match b.language, kind with
  | .rust, .wiring =>
    (targets.map fun target =>
        Content.refers target "pub mod " (b.language.moduleName target) none ";") ++
      targets.map fun target =>
        Content.refers target "pub use " (b.language.moduleName target)
          (some ("::", b.symbol target)) ";"
  | .cpp, _ => targets.map b.includeSibling
  | _, _ => targets.map b.useSibling

private theorem rust_refers (hl : b.language = .rust) (h : b.lines? kind = some ls) :
    keep Content.isRefers ls = (b.siblings kind).map fun content => ⟨0, content⟩ := by
  have hstore : ∀ op, keep Content.isRefers (rustStoreMethod b op) = [] := by
    intro op
    cases op <;>
      simp [rustStoreMethod, rustBody, rustBound, rustAwaited, rustChecked, Content.isRefers]
  have hmock : ∀ op, keep Content.isRefers (rustMockMethod b op) = [] := by
    intro op
    cases op <;> simp [rustMockMethod, rustMockBody, Content.isRefers]
  have hfield : ∀ f, keep Content.isRefers (rustField f) = [] := by
    intro f
    unfold rustField
    cases rename? f <;> rfl
  cases kind <;>
    simp only [lines?, modelLines, contractLines, storeLines, mockLines, wiringLines?, hl,
      Option.some.injEq] at h <;> subst h
  case model => simp [rustModel, siblings, Language.targets, opening, hl, Content.isRefers, hfield]
  case contract =>
    simp [rustContract, siblings, Language.targets, opening, keyImports, useSibling, hl,
      Content.isRefers]
  case store =>
    simp [rustStore, rustConstant, siblings, Language.targets, opening, keyImports, useSibling, hl,
      Content.isRefers, hstore, Operation.all, List.intercalate]
  case mock =>
    simp [rustMock, rustMockBasics, rustTests, testImports, rustTest, siblings, Language.targets,
      opening, keyImports, useSibling, hl, Content.isRefers, hmock, Operation.all,
      List.intercalate]
  case wiring => simp [rustWiring, siblings, Language.targets, opening, hl, Content.isRefers]

private theorem cpp_refers (hl : b.language = .cpp) (h : b.lines? kind = some ls) :
    keep Content.isRefers ls = (b.siblings kind).map fun content => ⟨0, content⟩ := by
  have hcall : ∀ start values, keep Content.isRefers (cppCall start values) = [] := by
    intro start values
    simp [cppCall, Content.isRefers, -List.map_dropLast]
  have hstore : ∀ op, keep Content.isRefers (cppStoreMethod b op) = [] := by
    intro op
    cases op <;>
      simp [cppStoreMethod, cppTask, cppLockAndBegin, cppCommit, hcall, Content.isRefers]
  have hmock : ∀ op, keep Content.isRefers (cppMockMethod b op) = [] := by
    intro op
    cases op <;> simp [cppMockMethod, cppMockBody, cppGuard, Content.isRefers]
  have hfield : ∀ f, keep Content.isRefers (cppField f) = [] := fun _ => rfl
  cases kind <;>
    simp only [lines?, modelLines, contractLines, storeLines, mockLines, wiringLines?, hl,
      Option.some.injEq, reduceCtorEq] at h <;> subst h
  case model => simp [cppModel, siblings, Language.targets, opening, hl, Content.isRefers, hfield]
  case contract =>
    simp [cppContract, siblings, Language.targets, opening, includeSibling, hl, Content.isRefers]
  case store =>
    simp [cppStore, cppConstant, timestampHelpers, siblings, Language.targets, opening,
      includeSibling, hl, Content.isRefers, hstore, Operation.all, List.intercalate]
  case mock =>
    simp [cppMock, cppReady, siblings, Language.targets, opening, includeSibling, hl,
      Content.isRefers, hmock, Operation.all, List.intercalate]

private theorem python_refers (hl : b.language = .python) (h : b.lines? kind = some ls) :
    keep Content.isRefers ls = (b.siblings kind).map fun content => ⟨0, content⟩ := by
  have hstore : ∀ op, keep Content.isRefers (pythonStoreMethod b op) = [] := by
    intro op
    cases op <;>
      simp [pythonStoreMethod, pythonBody, pythonCall, pythonEntry, pythonCommit,
        Content.isRefers]
  have hmock : ∀ op, keep Content.isRefers (pythonMockMethod b op) = [] := by
    intro op
    cases op <;> simp [pythonMockMethod, pythonMockBody, Content.isRefers]
  cases kind <;>
    simp only [lines?, modelLines, contractLines, storeLines, mockLines, wiringLines?, hl,
      Option.some.injEq] at h <;> subst h
  case model =>
    simp [pythonModel, pythonField, siblings, Language.targets, opening, hl, Content.isRefers]
  case contract =>
    simp [pythonContract, siblings, Language.targets, opening, keyImports, useSibling, hl,
      Content.isRefers]
  case store =>
    simp [pythonStore, pythonConstant, siblings, Language.targets, opening, keyImports,
      useSibling, hl, Content.isRefers, hstore, Operation.all, List.intercalate]
  case mock =>
    simp [pythonMock, pythonMockStart, siblings, Language.targets, opening, keyImports,
      useSibling, hl, Content.isRefers, hmock, Operation.all, List.intercalate]
  case wiring =>
    simp [pythonWiring, siblings, Language.targets, opening, useSibling, hl, Content.isRefers]

/-- Artifacts refer to siblings in the lines that are tagged so. -/
theorem keep_refers (hl : b.language ≠ .go) (h : b.lines? kind = some ls) :
    keep Content.isRefers ls = (b.siblings kind).map fun content => ⟨0, content⟩ := by
  cases hlanguage : b.language with
  | rust => exact rust_refers hlanguage h
  | cpp => exact cpp_refers hlanguage h
  | python => exact python_refers hlanguage h
  | go => exact absurd hlanguage hl

/-- The line refers to the artifact of the kind `target`, in the wording of the language. -/
def RefersTo (b : Blueprint) (target : Kind) (content : Content) : Prop :=
  ∃ lead symbol trail,
    content = .refers target lead (b.language.place b.table target) symbol trail ∧
      ⟨lead, symbol.map (·.1), trail⟩ ∈ b.language.wordings ∧ ∀ s ∈ symbol, s.2 = b.symbol target

private theorem useSibling_refersTo (hl : b.language = .rust ∨ b.language = .python)
    (target : Kind) : b.RefersTo target (b.useSibling target) := by
  unfold RefersTo useSibling Language.place
  rcases hl with hl | hl <;> rw [hl] <;>
    exact ⟨_, _, _, rfl, by simp [Language.wordings], by simp⟩

private theorem includeSibling_refersTo (hl : b.language = .cpp) (target : Kind) :
    b.RefersTo target (b.includeSibling target) := by
  unfold RefersTo includeSibling Language.place
  rw [hl]
  exact ⟨_, _, _, rfl, by decide, by simp⟩

/-- Every reference of an artifact is to one of its targets. -/
theorem exists_target {content : Content} (h : content ∈ b.siblings kind) :
    ∃ target ∈ b.language.targets kind, b.RefersTo target content := by
  cases hl : b.language with
  | go =>
    have hnone : b.siblings kind = [] := by simp [siblings, Language.targets, hl]
    rw [hnone] at h
    cases h
  | cpp =>
    have hincludes : b.siblings kind = (b.language.targets kind).map b.includeSibling := by
      simp [siblings, hl]
    rw [hincludes, hl] at h
    obtain ⟨target, htarget, rfl⟩ := List.mem_map.mp h
    exact ⟨target, htarget, includeSibling_refersTo hl target⟩
  | python =>
    have huses : b.siblings kind = (b.language.targets kind).map b.useSibling := by
      simp [siblings, hl]
    rw [huses, hl] at h
    obtain ⟨target, htarget, rfl⟩ := List.mem_map.mp h
    exact ⟨target, htarget, useSibling_refersTo (Or.inr hl) target⟩
  | rust =>
    by_cases hkind : kind = .wiring
    · subst hkind
      simp only [siblings, hl] at h
      rcases List.mem_append.mp h with h | h <;>
        obtain ⟨target, htarget, rfl⟩ := List.mem_map.mp h <;>
        refine ⟨target, htarget, ?_⟩ <;> unfold RefersTo Language.place <;> rw [hl]
      · exact ⟨_, _, _, rfl, by decide, by simp⟩
      · exact ⟨_, _, _, rfl, by simp [Language.wordings], by simp⟩
    · have huses : b.siblings kind = (b.language.targets kind).map b.useSibling := by
        cases kind <;> first | exact absurd rfl hkind | simp [siblings, hl]
      rw [huses, hl] at h
      obtain ⟨target, htarget, rfl⟩ := List.mem_map.mp h
      exact ⟨target, htarget, useSibling_refersTo (Or.inl hl) target⟩

end Blueprint

end AccessLayer
