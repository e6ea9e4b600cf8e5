import AccessLayer.Proofs.Artifact.Heading.Cpp
import AccessLayer.Proofs.Artifact.Imports
import AccessLayer.Schema.Reading

namespace AccessLayer

open Line Text

namespace Line

/-- Where they are not indented, the lines do not start with the mark. -/
def ClearOf (mark : List Char) (ls : List Line) : Prop :=
  ∀ line ∈ ls, line.depth = 0 → Quiet [mark] line.content.written

section ClearOf

variable {mark : List Char} {ls ls' : List Line}

private theorem clearOf_nil : ClearOf mark [] := fun _ hmem => by cases hmem

private theorem clearOf_cons {line : Line} :
    ClearOf mark (line :: ls) ↔
      (line.depth = 0 → Quiet [mark] line.content.written) ∧ ClearOf mark ls :=
  List.forall_mem_cons

private theorem clearOf_append : ClearOf mark (ls ++ ls') ↔ ClearOf mark ls ∧ ClearOf mark ls' :=
  List.forall_mem_append

private theorem clearOf_onlyIf (condition : Bool) (h : ClearOf mark ls) :
    ClearOf mark (onlyIf condition ls) := by
  cases condition
  · exact clearOf_nil
  · exact h

private theorem clearOf_indent : ClearOf mark (indent ls) := by
  intro line hline hdepth
  obtain ⟨inner, -, rfl⟩ := List.mem_map.mp hline
  cases hdepth

end ClearOf

private theorem not_startsSolid_cons {c : Char} (h : isBlank c = true) (cs : List Char) :
    ¬ StartsSolid (c :: cs) := by
  intro hsolid
  rw [StartsSolid, List.dropWhile_cons_of_pos h] at hsolid
  have hlength := congrArg List.length hsolid
  have hshort := (List.dropWhile_suffix (l := cs) isBlank).length_le
  rw [List.length_cons] at hlength
  omega

private theorem not_startsSolid_written (l : Language) {line : Line} (hdepth : line.depth ≠ 0)
    (hempty : line.content.written ≠ "") : ¬ StartsSolid (written l line).toList := by
  obtain ⟨depth, content⟩ := line
  obtain ⟨n, rfl⟩ := Nat.exists_eq_succ_of_ne_zero hdepth
  have hstep : ∃ c cs, (step l).toList = c :: cs ∧ isBlank c = true := by
    cases l <;> exact ⟨_, _, rfl, by decide⟩
  obtain ⟨c, cs, hstep, hblank⟩ := hstep
  rw [written_of_ne_empty l hempty, indentation, List.replicate_succ, String.join_cons,
    String.toList_append, String.toList_append, hstep]
  exact not_startsSolid_cons hblank _

/-- A line that starts with the mark is none of the lines. What is written behind an indentation
    starts with a blank, so that only the lines at the margin have to be looked at. -/
theorem count_linesOf_of_clear (l : Language) {mark : List Char} {ls : List Line} {s : String}
    (hinline : ∀ line ∈ ls, IsInline line.content.written) (hclear : ClearOf mark ls)
    (hmark : mark <+: s.toList) (hne : mark ≠ []) (hsolid : StartsSolid mark) :
    (linesOf l ls).count s.toList = 0 := by
  obtain ⟨rest, hrest⟩ := hmark
  have hstart : StartsSolid s.toList := by
    rw [← hrest]
    exact hsolid.append hne rest
  rw [List.count_eq_zero]
  intro hmem
  obtain ⟨line, hline, hrow⟩ := List.mem_flatMap.mp hmem
  by_cases hempty : line.content.written = ""
  · have hwritten : written l line = "" := by simp [written, hempty]
    rw [hwritten, lines_of_inline (by decide), List.mem_singleton] at hrow
    rw [hrow] at hrest
    exact hne (List.append_eq_nil_iff.mp hrest).1
  · rw [lines_of_inline (isInline_written (hinline line hline)), List.mem_singleton] at hrow
    by_cases hdepth : line.depth = 0
    · obtain ⟨depth, content⟩ := line
      obtain rfl : depth = 0 := hdepth
      refine (hclear _ hline rfl).2 mark (by simp) ?_
      rw [← written_margin l, ← hrow, hstart, ← hrest]
      exact List.prefix_append mark rest
    · rw [hrow] at hstart
      exact not_startsSolid_written l hdepth hempty hstart

end Line

namespace Heading

/-- Lines among which every operation is told apart stand on one line each. -/
theorem FitsAll.inline {h : Heading} {marks : List (List Char)} {ls : List Line}
    (hfits : h.FitsAll marks ls) (hdistinct : h.Distinct marks) :
    ∀ line ∈ ls, IsInline line.content.written := by
  intro line hline
  have hcontent := hfits line hline
  cases hheads : line.content with
  | heads op lead signature trail =>
    rw [hheads] at hcontent
    obtain ⟨rfl, rfl, rfl⟩ := hcontent
    exact hdistinct.inline op
  | text | imports | refers | declares | passes =>
    rw [hheads] at hcontent
    exact hcontent.1

end Heading

namespace Blueprint

variable {b : Blueprint}

/-- How the definitions start that a store needs for timestamps. -/
def helperHeads : List String :=
  ["inline std::chrono::system_clock::time_point parse_timestamp(const std::string& text) \x7b",
    "inline std::string format_timestamp(std::chrono::system_clock::time_point tp) \x7b"]

private theorem sections_split {groups : List (List Line)} {ls : List Line} (i : Nat)
    (h : groups[i]? = some ls) :
    sections groups = sections (groups.take i) ++ (ls ++ sections (groups.drop (i + 1))) := by
  obtain ⟨hi, rfl⟩ := List.getElem?_eq_some_iff.mp h
  rw [sections, sections, sections, ← List.flatten_cons, ← List.flatten_append,
    List.getElem_cons_drop, List.take_append_drop]

private theorem exists_helpers (hb : b.Unbroken) (hl : b.language = .cpp) : ∃ front back,
    cppStore b = front ++ (onlyIf (b.uses .timestamp) timestampHelpers ++ back) ∧
      ClearOf "inline ".toList front ∧ ClearOf "inline ".toList back := by
  have hsymbol := hb.symbol
  have hsibling : Quiet ["inline ".toList] (b.includeSibling .contract).written := by
    have hstart : "#include \"".toList <+: (b.includeSibling .contract).written.toList := by
      rw [includeSibling, Content.written, String.append_assoc, String.toList_append]
      exact List.prefix_append _ _
    exact quiet_of_start hstart (by decide) (cppSibling_told hb hl .contract).1
  have himports : ClearOf "inline ".toList
      [Content.imports "#include <ctime>", Content.imports "#include <iomanip>",
        Content.imports "#include <sstream>"] := by
    simp only [ClearOf]
    decide
  refine ⟨_, _, sections_split 4 rfl, ?_, ?_⟩
  · have himported := clearOf_onlyIf (b.uses .timestamp) himports
    simp only [sections, List.take_succ_cons, List.take_zero, List.flatten_cons,
      List.flatten_nil, clearOf_append, clearOf_cons, clearOf_nil, hsibling, himported]
    simp (disch := first | (refine apart_ofList ?_; decide) | decide) [opening, originNote, hl,
      toString, String.append_assoc, clearOf_cons, clearOf_nil, Content.written, hsymbol]
  · simp (disch := first | (refine apart_ofList ?_; decide) | decide) [sections, toString,
      String.append_assoc, clearOf_cons, clearOf_append, clearOf_nil, clearOf_indent,
      Content.written, hsymbol]

/-- The helpers aside, nothing at the margin of a store is defined `inline`. So the head of each
    helper stands there once where a field is a timestamp, and not at all otherwise. -/
theorem count_helperHeads (hb : b.Unbroken) (hl : b.language = .cpp) {category : Category}
    (hkey : b.key.type = Language.nativeType .cpp category) {head : String}
    (hhead : head ∈ helperHeads) :
    (linesOf .cpp (cppStore b)).count head.toList = if b.uses .timestamp then 1 else 0 := by
  have hinline := (cppStore_fits hb hl).inline
    (distinct_cppHeading hb hkey (Or.inl rfl) (by decide))
  obtain ⟨front, back, hsplit, hfront, hback⟩ := exists_helpers hb hl
  have hmark : ∀ head ∈ helperHeads, "inline ".toList <+: head.toList := by decide +kernel
  have hnone {ls : List Line} (hls : ls ⊆ cppStore b) (hclear : ClearOf "inline ".toList ls) :
      (linesOf .cpp ls).count head.toList = 0 :=
    count_linesOf_of_clear .cpp (fun line hline => hinline line (hls hline)) hclear
      (hmark head hhead) (by decide) (by decide)
  rw [hsplit] at hnone hinline ⊢
  rw [linesOf_append, linesOf_append, List.count_append, List.count_append,
    hnone (List.subset_append_left _ _) hfront, hnone (fun line hline => by simp [hline]) hback]
  cases huses : b.uses .timestamp with
  | false => rfl
  | true =>
    rw [huses] at hinline
    have hwhole : ∀ line ∈ timestampHelpers, IsInline line.content.written :=
      fun line hline => hinline line (by simp [onlyIf, hline])
    have hhelpers : ∀ head ∈ helperHeads,
        (timestampHelpers.map (written .cpp)).count head = 1 := by decide +kernel
    rw [Nat.zero_add, Nat.add_zero]
    change (linesOf .cpp timestampHelpers).count head.toList = 1
    rw [linesOf_of_inline hwhole,
      List.count_map_of_injective _ String.toList (fun _ _ => String.toList_inj.mp)]
    exact hhelpers head hhead

/-- What the tests of a mock import, with the name that the import makes known. -/
def testLines : List (String × String) :=
  [("Utc", "    use chrono::Utc;"), ("Uuid", "    use uuid::Uuid;")]

private theorem contains_iff (text part : String) :
    Contains text part ↔ part.toList <:+: text.toList := by
  constructor
  · rintro ⟨before, after, rfl⟩
    exact ⟨before.toList, after.toList, by simp⟩
  · rintro ⟨before, after, h⟩
    refine ⟨String.ofList before, String.ofList after, ?_⟩
    rw [← String.toList_inj, ← h]
    simp

private theorem contains_sample (category : Category) (optional : Bool) :
    (Contains (Language.rust.sample category optional) "Utc" ↔ category = .timestamp) ∧
      (Contains (Language.rust.sample category optional) "Uuid" ↔ category = .uuid) := by
  rw [contains_iff, contains_iff]
  cases category <;> cases optional <;> decide

/-- A line of the tests that makes known what samples are made with is there once if some sample is
    made with it, and not at all otherwise. -/
def TestsImport (b : Blueprint) (tests : List (List Char)) : Prop :=
  ∀ entry ∈ testLines, (entry.2.toList ∈ tests ↔ ∃ f ∈ b.fields, Contains f.sample entry.1) ∧
    tests.count entry.2.toList ≤ 1

private theorem exists_uses {t : Table} {category : Category} {name : String}
    (h : ∀ category' optional,
      Contains (Language.rust.sample category' optional) name ↔ category' = category)
    (service : String) :
    (∃ f ∈ (ofTable .rust service t).fields, Contains f.sample name) ↔
      (ofTable .rust service t).uses category = true := by
  rw [uses, List.any_eq_true]
  refine exists_congr fun f => and_congr_right fun hf => ?_
  obtain ⟨c, -, rfl⟩ := List.mem_map.mp hf
  rw [beq_iff_eq]
  exact h c.category c.isOptional

/-- The lines of the test module below its head. -/
def testModule (b : Blueprint) : List Line := indent (rustTests b) ++ [("\x7d" : Line)]

private theorem imports_testModule (b : Blueprint) :
    (keep Content.isImports b.testModule).map (written .rust) =
      (if b.uses .timestamp then ["    use chrono::Utc;"] else []) ++
        if b.uses .uuid then ["    use uuid::Uuid;"] else [] := by
  cases htimed : b.uses .timestamp <;> cases hkeyed : b.uses .uuid <;>
    simp [testModule, rustTests, rustTest, testImports, htimed, hkeyed, onlyIf,
      Content.isImports, written, Content.written, step]

private theorem mem_and_count {lines : List (List Char)} {line : List Char} {condition : Bool}
    (h : lines.count line = if condition then 1 else 0) :
    (line ∈ lines ↔ condition = true) ∧ lines.count line ≤ 1 := by
  rw [← List.count_pos_iff, h]
  cases condition <;> simp

private theorem testsImport_ofTable (service : String) {t : Table} (h : t.Legible) :
    TestsImport (ofTable .rust service t) (linesOf .rust (ofTable .rust service t).testModule) := by
  have hb := legible_ofTable .rust service h
  have htold : Told .rust (ofTable .rust service t).testModule := by
    have htests := rustTests_told hb.toUnbroken hb.title
    simp (disch := (refine apart_ofList ?_; decide)) [testModule, htests]
  have hlines := imports_testModule (ofTable .rust service t)
  unfold TestsImport testLines
  rw [List.forall_mem_cons, List.forall_mem_singleton]
  constructor
  · rw [exists_uses (fun c o => (contains_sample c o).1) service]
    refine mem_and_count ?_
    rw [count_linesOf htold (by decide), hlines]
    cases (ofTable .rust service t).uses .timestamp <;>
      cases (ofTable .rust service t).uses .uuid <;> decide
  · rw [exists_uses (fun c o => (contains_sample c o).2) service]
    refine mem_and_count ?_
    rw [count_linesOf htold (by decide), hlines]
    cases (ofTable .rust service t).uses .timestamp <;>
      cases (ofTable .rust service t).uses .uuid <;> decide

/-- Of the lines of an artifact, `n` are `line`, besides those on which the name of the service
    stands. -/
def HasLine (b : Blueprint) (kind : Kind) (line : String) (n : Nat) : Prop :=
  ∃ contents, b.render? kind = some contents ∧
    (lines contents.toList).count line.toList = (lines b.clause.toList).count line.toList + n

/-- The tests of a mock are the lines of its last module. -/
def TestsNeeded (b : Blueprint) : Prop :=
  ∃ contents before tests, b.render? .mock = some contents ∧
    lines contents.toList =
      before ++ "#[cfg(test)]".toList :: "mod tests \x7b".toList :: tests ∧ TestsImport b tests

/-- As often as a line is among the imports of an artifact's lines, it is among the lines of its
    text. -/
theorem hasLine_of_lines (hb : b.Legible) {kind : Kind} {ls : List Line}
    (h : b.lines? kind = some ls) {need : Need} {line : String}
    (hline : b.language.importLine? need = some line) :
    b.HasLine kind line ((b.importLines ls).count line) :=
  ⟨render b.language ls, by rw [render?, h, Option.map_some],
    hb.count_render h (Language.isImport_importLine hline)⟩

/-- Where the name of the service is on one line, no import is there. -/
theorem count_clause {need : Need} {line : String} (hline : b.language.importLine? need = some line)
    (h : IsInline b.package) : (lines b.clause.toList).count line.toList = 0 := by
  have himport := Language.isImport_importLine hline
  unfold clause
  cases hl : b.language with
  | rust | cpp | python =>
    rw [hl] at himport
    exact count_other "" himport (by decide)
  | go =>
    rw [hl] at himport
    have hquiet : Quiet Language.go.openings ("package " ++ b.package) :=
      (quiet_append (by decide) _).mpr h
    refine count_other _ himport ⟨hquiet.1, (silent_of_quiet hquiet _ ?_).1⟩
    rw [rows_of_not_mem hquiet.1]
    exact List.mem_singleton_self _

private theorem exists_front (b : Blueprint) : ∃ front, rustMock b =
    front ++ ((["", "#[cfg(test)]", "mod tests \x7b"] : List Line) ++ b.testModule) := by
  have hmodule : sections [braced "mod tests" (rustTests b)] =
      ("mod tests \x7b" : Line) :: b.testModule := by
    simp [sections, braced, block, testModule]
  have hsplit : ∃ front, rustMock b = front ++ ((["", "#[cfg(test)]"] : List Line) ++
      sections [braced "mod tests" (rustTests b)]) := ⟨_, sections_split 9 rfl⟩
  rwa [hmodule] at hsplit

/-- The tests import what their samples are made with, and nothing else. -/
theorem testsNeeded_ofTable (service : String) {t : Table} (h : t.Legible) :
    TestsNeeded (ofTable .rust service t) := by
  obtain ⟨front, hsplit⟩ := exists_front (ofTable .rust service t)
  have hlines : (ofTable .rust service t).lines? .mock = some (ofTable .rust service t).mockLines :=
    rfl
  have hne := lines_ne_nil hlines
  refine ⟨_, linesOf .rust front ++ ["".toList], _, rfl, ?_, testsImport_ofTable service h⟩
  rw [lines_render _ hne]
  change linesOf .rust (rustMock (ofTable .rust service t)) = _
  rw [hsplit, linesOf_append, linesOf_append, List.append_assoc]
  rfl

/-- For every table of a schema, a model has the line that meets a need once if a field has the
    need, and otherwise not at all; contracts, stores and mocks have it so by the type of the key
    alone. A store defines helpers for timestamps, and a test imports what makes its samples,
    exactly where fields are of that category. Where the service is named, arbitrary text may stand;
    if it breaks no line, it adds none of these. -/
theorem imports_exactly_as_needed (l : Language) (service text : String) (t : Table)
    (ht : t ∈ readSchema text) :
    (∀ need line, l.importLine? need = some line →
        (ofTable l service t).HasLine .model line
          (if (ofTable l service t).fields.any need.isOf then 1 else 0)) ∧
      (l ≠ .cpp → ∀ kind ∈ [Kind.contract, .store, .mock], ∀ category line,
        l.importLine? (.holds category) = some line →
          (ofTable l service t).HasLine kind line
            (if (ofTable l service t).key.type == l.nativeType category then 1 else 0)) ∧
      (l = .cpp → ∀ head ∈ helperHeads, (ofTable l service t).HasLine .store head
        (if (ofTable l service t).fields.any (Need.holds .timestamp).isOf then 1 else 0)) ∧
      (l = .rust → (ofTable l service t).TestsNeeded) ∧
      (IsInline (l.packageName service) → ∀ need line, l.importLine? need = some line →
        (lines (ofTable l service t).clause.toList).count line.toList = 0) := by
  have hlegible := legible_of_mem_readSchema ht
  have hb := legible_ofTable l service hlegible
  refine ⟨fun need line hline => ?_, fun hl kind hkind category line hline => ?_, ?_, ?_, ?_⟩
  · have hlines : (ofTable l service t).lines? .model = some (ofTable l service t).modelLines := rfl
    have hmodel := hasLine_of_lines hb hlines hline
    have hlanguage : (ofTable l service t).language = l := rfl
    rwa [importLines_model, hlanguage, Language.count_modelLines hline] at hmodel
  · obtain ⟨ls, hls⟩ : ∃ ls, (ofTable l service t).lines? kind = some ls := by
      simp only [List.mem_cons, List.not_mem_nil, or_false] at hkind
      rcases hkind with rfl | rfl | rfl <;> exact ⟨_, rfl⟩
    have hkeyed := hasLine_of_lines hb hls hline
    rwa [(keyed_of_lines hl hkind hls).count hl hline] at hkeyed
  · rintro rfl head hhead
    have hcount := count_helperHeads hb.toUnbroken rfl (ofTable_keyType .cpp service t) hhead
    have hlines : (ofTable .cpp service t).lines? .store =
        some (ofTable .cpp service t).storeLines := rfl
    have hne := lines_ne_nil hlines
    have hclause : ∀ head ∈ helperHeads, (lines "".toList).count head.toList = 0 := by
      decide +kernel
    refine ⟨_, rfl, ?_⟩
    rw [show (ofTable .cpp service t).clause = "" from rfl, hclause head hhead, Nat.zero_add]
    rw [lines_render _ hne]
    exact hcount
  · rintro rfl
    exact testsNeeded_ofTable service hlegible
  · exact fun hinline need line hline => count_clause hline hinline

/-- A table with a timestamp that is not its key. -/
def tickets : Table :=
  ⟨"tickets", [⟨"id", .uuid, true, true, none⟩, ⟨"opened", .timestamp, true, false, none⟩]⟩

/-- The model that may hold nothing for a time says so, the stores import what the key is made of
    and leave out what they do not name, and the helpers for timestamps are there. -/
theorem imports_exactly_as_needed_tickets :
    tickets ∈ readSchema "CREATE TABLE tickets (id UUID PRIMARY KEY, opened TIMESTAMP);" ∧
      (ofTable .python "service" tickets).HasLine .model "from typing import Optional" 1 ∧
      (ofTable .go "service" tickets).HasLine .store "\t\"github.com/google/uuid\"" 1 ∧
      (ofTable .go "service" tickets).HasLine .store "\t\"time\"" 0 ∧
      (lines (ofTable .go "service" tickets).clause.toList).count "\t\"time\"".toList = 0 ∧
      (∀ head ∈ helperHeads, (ofTable .cpp "service" tickets).HasLine .store head 1) ∧
      (ofTable .rust "service" tickets).TestsNeeded := by
  have hmem : tickets ∈
      readSchema "CREATE TABLE tickets (id UUID PRIMARY KEY, opened TIMESTAMP);" := by
    decide +kernel
  obtain ⟨hmodel, -⟩ := imports_exactly_as_needed .python "service" _ tickets hmem
  obtain ⟨-, hkeyed, -, -, hclause⟩ := imports_exactly_as_needed .go "service" _ tickets hmem
  obtain ⟨-, -, hhelpers, -⟩ := imports_exactly_as_needed .cpp "service" _ tickets hmem
  obtain ⟨-, -, -, htests, -⟩ := imports_exactly_as_needed .rust "service" _ tickets hmem
  exact ⟨hmem, hmodel .optional _ rfl, hkeyed (by decide) .store (by decide) .uuid _ rfl,
    hkeyed (by decide) .store (by decide) .timestamp _ rfl,
    hclause (by decide +kernel) (.holds .timestamp) _ rfl, hhelpers rfl, htests rfl⟩

end Blueprint

end AccessLayer
