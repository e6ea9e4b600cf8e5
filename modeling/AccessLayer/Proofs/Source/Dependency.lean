import AccessLayer.Proofs.Source.Row
import Mathlib.Data.List.Count

namespace AccessLayer

open Text

namespace Text

/-- The lines of a text. -/
def lines (cs : List Char) : List (List Char) := pieces (· == '\n') cs

/-- Text behind a line break has lines of its own. -/
theorem lines_append_newline (cs ds : List Char) :
    lines (cs ++ '\n' :: ds) = lines cs ++ lines ds := pieces_append_separator rfl cs ds

/-- A text without line breaks is one line. -/
theorem lines_of_inline {s : String} (h : IsInline s) : lines s.toList = [s.toList] := by
  refine pieces_of_free fun c hc => ?_
  simp only [beq_eq_false_iff_ne]
  rintro rfl
  exact h hc

/-- The line starts with one of the marks. -/
def startsWithAny (marks : List (List Char)) (row : List Char) : Bool :=
  marks.any (·.isPrefixOf row)

private theorem startsWithAny_iff {marks : List (List Char)} {row : List Char} :
    startsWithAny marks row = true ↔ ∃ m ∈ marks, m <+: row := by
  simp [startsWithAny]

end Text

namespace Language

/-- What a line starts with that makes something known to its file. -/
def openings : Language → List (List Char)
  | rust => ["use ".toList, "pub use ".toList, "pub mod ".toList]
  | cpp => ["#include ".toList]
  | python => ["from ".toList]
  | go => ["\"".toList]

/-- What a line starts with that refers to a sibling artifact. -/
def siblingMarks : Language → List (List Char)
  | rust => ["use super::".toList, "pub use ".toList, "pub mod ".toList]
  | cpp => ["#include \"".toList]
  | python => ["from .".toList]
  | go => []

/-- Refers to all that the enclosing module declares, and to no sibling. -/
def enclosing : String := "use super::*;"

/-- The line refers to a sibling artifact. -/
def isReference (l : Language) (row : List Char) : Bool :=
  startsWithAny l.siblingMarks row && row != enclosing.toList

/-- The line makes a library known. Where such a line has no word of its own to start with, it holds
    no blank. -/
def isImport (l : Language) (row : List Char) : Bool :=
  startsWithAny l.openings row && !startsWithAny l.siblingMarks row &&
    (l != go || row.all (!isBlank ·))

variable {l : Language} {row : List Char}

/-- What opens a line that makes something known begins with no blank. -/
theorem openings_solid (l : Language) : ∀ m ∈ l.openings, m ≠ [] ∧ StartsSolid m := by
  cases l <;> decide

private theorem siblingMarks_open (l : Language) :
    ∀ m ∈ l.siblingMarks, ∃ o ∈ l.openings, o <+: m := by
  cases l <;> decide

/-- A line that refers to a sibling opens like one that makes something known. -/
theorem opens_of_isReference (h : l.isReference row = true) :
    startsWithAny l.openings row = true := by
  obtain ⟨m, hm, hstarts⟩ := startsWithAny_iff.mp (Bool.and_eq_true_iff.mp h).1
  obtain ⟨o, ho, hopens⟩ := l.siblingMarks_open m hm
  exact startsWithAny_iff.mpr ⟨o, ho, hopens.trans hstarts⟩

private theorem opens_of_isImport (h : l.isImport row = true) :
    startsWithAny l.openings row = true :=
  (Bool.and_eq_true_iff.mp (Bool.and_eq_true_iff.mp h).1).1

/-- An import refers to no sibling. -/
theorem isReference_of_isImport (h : l.isImport row = true) : l.isReference row = false := by
  have hsibling : startsWithAny l.siblingMarks row = false := by
    simpa using (Bool.and_eq_true_iff.mp (Bool.and_eq_true_iff.mp h).1).2
  rw [isReference, hsibling, Bool.false_and]

/-- What refers to a sibling is no import. -/
theorem isImport_of_isReference (h : l.isReference row = true) : l.isImport row = false :=
  Bool.eq_false_iff.mpr fun himport => by
    rw [isReference_of_isImport himport] at h
    cases h

/-- Every line that starts so refers to a sibling artifact. -/
def Refers (l : Language) (lead : List Char) : Prop :=
  startsWithAny l.siblingMarks lead = true ∧ Diverge lead enclosing.toList

instance (l : Language) (lead : List Char) : Decidable (l.Refers lead) :=
  inferInstanceAs (Decidable (_ ∧ _))

/-- Whether a line refers to a sibling is settled by how it begins. -/
theorem isReference_append {lead : String} (h : l.Refers lead.toList) (rest : String) :
    l.isReference (lead ++ rest).toList = true := by
  obtain ⟨m, hm, hstarts⟩ := startsWithAny_iff.mp h.1
  have hsibling : startsWithAny l.siblingMarks (lead ++ rest).toList = true := by
    rw [String.toList_append]
    exact startsWithAny_iff.mpr ⟨m, hm, hstarts.trans (List.prefix_append _ _)⟩
  have hother : (lead ++ rest).toList ≠ enclosing.toList := by
    intro hsame
    refine h.2.1 ?_
    rw [← hsame, String.toList_append]
    exact List.prefix_append _ _
  rw [isReference, hsibling, Bool.true_and, bne_iff_ne]
  exact hother

/-- A line that makes something known starts with no blank. -/
theorem startsSolid_of_opens (h : startsWithAny l.openings row = true) : StartsSolid row := by
  obtain ⟨m, hm, rest, rfl⟩ := startsWithAny_iff.mp h
  obtain ⟨hne, hsolid⟩ := l.openings_solid m hm
  exact hsolid.append hne rest

end Language

/-- No line of the text makes anything known. -/
def Silent (l : Language) (s : String) : Prop :=
  ∀ row ∈ rows s.toList, l.isImport row = false ∧ l.isReference row = false

instance (l : Language) (s : String) : Decidable (Silent l s) :=
  inferInstanceAs (Decidable (∀ row ∈ rows s.toList, _ ∧ _))

instance (marks : List (List Char)) (s : String) : Decidable (Quiet marks s) :=
  inferInstanceAs (Decidable (_ ∧ _))

/-- A line that opens with no such word makes nothing known. -/
theorem silent_of_quiet {l : Language} {s : String} (h : Quiet l.openings s) : Silent l s := by
  intro row hrow
  rw [rows_of_not_mem h.1] at hrow
  obtain rfl := List.mem_singleton.mp hrow
  have hclosed : startsWithAny l.openings (s.toList.dropWhile isBlank) = false :=
    Bool.eq_false_iff.mpr fun hstarts => by
      obtain ⟨m, hm, hmark⟩ := startsWithAny_iff.mp hstarts
      exact h.2 m hm hmark
  constructor
  · exact Bool.eq_false_iff.mpr fun himport =>
      Bool.eq_false_iff.mp hclosed (Language.opens_of_isImport himport)
  · exact Bool.eq_false_iff.mpr fun href =>
      Bool.eq_false_iff.mp hclosed (Language.opens_of_isReference href)

namespace Content

/-- The line makes something known exactly where it is tagged so. -/
def Told (l : Language) : Content → Prop
  | .imports s => IsInline s ∧ l.isImport s.toList = true
  | .refers kind lead place symbol trail =>
    IsInline (refers kind lead place symbol trail).written ∧
      l.isReference (refers kind lead place symbol trail).written.toList = true
  | content => Quiet l.openings content.written ∨ Silent l content.written

/-- Whether a line is tagged as one that makes a library known. -/
def isImports : Content → Bool
  | .imports _ => true
  | _ => false

/-- Whether a line is tagged as one that refers to a sibling. -/
def isRefers : Content → Bool
  | .refers .. => true
  | _ => false

section Told

variable (l : Language)

@[simp] theorem told_text (s : String) :
    Told l (.text s) ↔ Quiet l.openings s ∨ Silent l s := Iff.rfl

@[simp] theorem told_imports {s : String} (h : IsInline s ∧ l.isImport s.toList = true) :
    Told l (.imports s) := h

@[simp] theorem told_declares (lead name trail : String) :
    Told l (.declares lead name trail) ↔
      Quiet l.openings (lead ++ name ++ trail) ∨ Silent l (lead ++ name ++ trail) := Iff.rfl

@[simp] theorem told_heads (op : Operation) (lead signature trail : String) :
    Told l (.heads op lead signature trail) ↔
      Quiet l.openings (lead ++ signature ++ trail) ∨ Silent l (lead ++ signature ++ trail) :=
  Iff.rfl

@[simp] theorem told_passes (lead : String) (a : Argument) (trail : String) :
    Told l (.passes lead a trail) ↔
      Quiet l.openings (lead ++ a.text ++ trail) ∨ Silent l (lead ++ a.text ++ trail) := Iff.rfl

end Told

variable {l : Language} {content : Content}

/-- A line that is not tagged makes nothing known. -/
theorem Told.silent (h : content.Told l) (himport : content.isImports = false)
    (href : content.isRefers = false) : Silent l content.written := by
  cases content with
  | imports => cases himport
  | refers => cases href
  | text | declares | heads | passes => exact h.elim silent_of_quiet id

end Content

namespace Line

variable (l : Language)

/-- The lines of the text of some lines. -/
def linesOf (ls : List Line) : List (List Char) :=
  ls.flatMap fun line => lines (written l line).toList

/-- Lines below others are read behind them. -/
theorem linesOf_append (ls ls' : List Line) :
    linesOf l (ls ++ ls') = linesOf l ls ++ linesOf l ls' :=
  List.flatMap_append

/-- The lines of a text are read line by line from what it was rendered from. -/
theorem lines_render {ls : List Line} (hne : ls ≠ []) :
    lines (render l ls).toList = linesOf l ls := read_render l lines_append_newline hne

/-- The lines whose contents are asked for. -/
def keep (p : Content → Bool) (ls : List Line) : List Line := ls.filter (p ·.content)

/-- Where no element has a line, no line is there. -/
@[simp] theorem flatMap_nothing {α : Type} (xs : List α) :
    (xs.flatMap fun _ => ([] : List Line)) = [] :=
  List.flatMap_eq_nil_iff.mpr fun _ _ => rfl

@[simp] theorem onlyIf_nil (condition : Bool) : onlyIf condition [] = [] := by
  cases condition <;> rfl

section Keep

variable (p : Content → Bool) (depth : Nat) (ls ls' : List Line)

@[simp] theorem keep_nil : keep p [] = [] := rfl

@[simp] theorem keep_cons (line : Line) :
    keep p (line :: ls) = if p line.content then line :: keep p ls else keep p ls :=
  List.filter_cons

/-- What is kept of lines in a row is kept of each. -/
@[simp] theorem keep_append : keep p (ls ++ ls') = keep p ls ++ keep p ls' :=
  List.filter_append ls ls'

@[simp] theorem keep_indent : keep p (indent ls) = indent (keep p ls) := List.filter_map

/-- What is kept of groups of lines is kept of each. -/
@[simp] theorem keep_flatMap {α : Type} (lines : α → List Line) (xs : List α) :
    keep p (xs.flatMap lines) = xs.flatMap fun x => keep p (lines x) := by
  induction xs with
  | nil => rfl
  | cons x xs ih => rw [List.flatMap_cons, keep_append, ih, List.flatMap_cons]

@[simp] theorem keep_sections (groups : List (List Line)) :
    keep p (sections groups) = groups.flatMap (keep p) := by
  rw [sections, ← List.flatMap_id, keep_flatMap]
  rfl

@[simp] theorem keep_block (top foot : Line) :
    keep p (block top ls foot) = keep p [top] ++ (indent (keep p ls) ++ keep p [foot]) := by
  rw [block, List.cons_append, ← List.singleton_append, keep_append, keep_append, keep_indent]

@[simp] theorem keep_braced (top : String) :
    keep p (braced top ls) =
      keep p [↑(top ++ " \x7b")] ++ (indent (keep p ls) ++ keep p ["\x7d"]) :=
  keep_block p ls _ _

@[simp] theorem keep_onlyIf (condition : Bool) :
    keep p (onlyIf condition ls) = onlyIf condition (keep p ls) := by
  cases condition <;> rfl

@[simp] theorem keep_map {α : Type} (line : α → Line) (xs : List α) :
    keep p (xs.map line) = (xs.filter fun x => p (line x).content).map line := List.filter_map

end Keep

/-- Every line makes something known exactly where it is tagged so. -/
def Told (l : Language) (ls : List Line) : Prop := ∀ line ∈ ls, line.content.Told l

section Told

variable (l : Language) (ls ls' : List Line)

@[simp] theorem told_nil : Told l [] := fun _ hmem => by cases hmem

@[simp] theorem told_cons (line : Line) :
    Told l (line :: ls) ↔ line.content.Told l ∧ Told l ls := List.forall_mem_cons

@[simp] theorem told_append : Told l (ls ++ ls') ↔ Told l ls ∧ Told l ls' :=
  List.forall_mem_append

@[simp] theorem told_indent : Told l (indent ls) ↔ Told l ls := List.forall_mem_map

@[simp] theorem told_block (top foot : Line) :
    Told l (block top ls foot) ↔ top.content.Told l ∧ Told l ls ∧ foot.content.Told l := by
  simp [block]

@[simp] theorem told_braced (top : String) :
    Told l (braced top ls) ↔
      Content.Told l (.text (top ++ " \x7b")) ∧ Told l ls ∧ Content.Told l (.text "\x7d") :=
  told_block l ls _ _

@[simp] theorem told_flatMap {α : Type} (lines : α → List Line) (xs : List α) :
    Told l (xs.flatMap lines) ↔ ∀ x ∈ xs, Told l (lines x) := by
  simp only [Told, List.mem_flatMap]
  exact ⟨fun hall x hx line hline => hall line ⟨x, hx, hline⟩,
    fun hall line ⟨x, hx, hline⟩ => hall x hx line hline⟩

@[simp] theorem told_sections (groups : List (List Line)) :
    Told l (sections groups) ↔ ∀ g ∈ groups, Told l g := by
  rw [sections, ← List.flatMap_id, told_flatMap]
  rfl

@[simp] theorem told_onlyIf (condition : Bool) :
    Told l (onlyIf condition ls) ↔ (condition = true → Told l ls) := by
  cases condition <;> simp [onlyIf]

@[simp] theorem told_map {α : Type} (line : α → Line) (xs : List α) :
    Told l (xs.map line) ↔ ∀ x ∈ xs, (line x).content.Told l := List.forall_mem_map

end Told

section Back

variable {l : Language} {ls : List Line}

/-- Lines at the margin are written as they are. -/
theorem written_margin (l : Language) (content : Content) :
    written l ⟨0, content⟩ = content.written := by
  by_cases hempty : content.written = ""
  · simp [written, hempty]
  · rw [written_of_ne_empty l hempty, indentation, List.replicate_zero, String.join_nil,
      String.empty_append]

/-- A line without a line break is written without one. -/
theorem isInline_written {line : Line} (h : IsInline line.content.written) :
    IsInline (written l line) := by
  by_cases hempty : line.content.written = ""
  · simp [written, hempty, IsInline]
  · rw [written_of_ne_empty l hempty]
    exact (isInline_append _ _).mpr ⟨(indentation_toList l line.depth).2, h⟩

/-- Where nothing breaks a line, the lines of the text are the lines as they are written. -/
theorem linesOf_of_inline (h : ∀ line ∈ ls, IsInline line.content.written) :
    linesOf l ls = (ls.map (written l)).map String.toList := by
  induction ls with
  | nil => rfl
  | cons line ls ih =>
    obtain ⟨hline, hrest⟩ := List.forall_mem_cons.mp h
    have hcons : linesOf l (line :: ls) = lines (written l line).toList ++ linesOf l ls := rfl
    rw [hcons, lines_of_inline (isInline_written hline), ih hrest]
    rfl

/-- A line that starts with no blank is found behind its indentation. -/
theorem row_written {line : Line} (hinline : IsInline line.content.written)
    (hsolid : StartsSolid line.content.written.toList) :
    lines (written l line).toList = [(written l line).toList] ∧
      (written l line).toList.dropWhile isBlank = line.content.written.toList := by
  have hline : IsInline (written l line) := isInline_written hinline
  have hrows := rows_written l line
  rw [rows_of_not_mem hline, rows_of_not_mem hinline, hsolid] at hrows
  exact ⟨lines_of_inline hline, List.singleton_inj.mp hrows⟩

private theorem filter_isImport_written {line : Line} (h : line.content.Told l) :
    (lines (written l line).toList).filter (fun row => l.isImport (row.dropWhile isBlank)) =
      if line.content.isImports then [(written l line).toList] else [] := by
  have hopens (hopen : startsWithAny l.openings line.content.written.toList = true)
      (hinline : IsInline line.content.written) :=
    row_written (l := l) hinline (Language.startsSolid_of_opens hopen)
  cases hcontent : line.content with
  | imports s =>
    rw [hcontent] at h hopens
    obtain ⟨hlines, hrow⟩ := hopens (Language.opens_of_isImport h.2) h.1
    have himport : l.isImport s.toList = true := h.2
    simp [hlines, hrow, Content.isImports, Content.written, himport]
  | refers kind lead place symbol trail =>
    rw [hcontent] at h hopens
    obtain ⟨hlines, hrow⟩ := hopens (Language.opens_of_isReference h.2) h.1
    simp [hlines, hrow, Content.isImports, Language.isImport_of_isReference h.2]
  | text | declares | heads | passes =>
    have hsilent : Silent l line.content.written :=
      h.silent (by rw [hcontent]; rfl) (by rw [hcontent]; rfl)
    rw [show Content.isImports _ = false from rfl, if_neg Bool.false_ne_true,
      List.filter_eq_nil_iff]
    intro row hrow
    have hmem : row.dropWhile isBlank ∈ rows line.content.written.toList := by
      rw [← rows_written l line]
      exact List.mem_map_of_mem hrow
    rw [(hsilent _ hmem).1]
    exact Bool.false_ne_true

/-- The lines that make libraries known are those that are tagged so. -/
theorem filter_isImport (h : Told l ls) :
    (linesOf l ls).filter (fun row => l.isImport (row.dropWhile isBlank)) =
      ((keep Content.isImports ls).map (written l)).map String.toList := by
  induction ls with
  | nil => rfl
  | cons line ls ih =>
    obtain ⟨hline, hrest⟩ := (told_cons l ls line).mp h
    have hcons : linesOf l (line :: ls) = lines (written l line).toList ++ linesOf l ls := rfl
    rw [hcons, List.filter_append, filter_isImport_written hline, ih hrest, keep_cons]
    cases line.content.isImports <;> rfl

/-- A line that makes a library known is there as often as it is tagged. -/
theorem count_linesOf (h : Told l ls) {s : String}
    (hs : l.isImport (s.toList.dropWhile isBlank) = true) :
    (linesOf l ls).count s.toList = ((keep Content.isImports ls).map (written l)).count s := by
  have hcount := List.count_filter (l := linesOf l ls)
    (p := fun row => l.isImport (row.dropWhile isBlank)) hs
  rw [← hcount, filter_isImport h]
  exact List.count_map_of_injective _ String.toList (fun _ _ => String.toList_inj.mp) s

/-- A line that refers to a sibling artifact is tagged so. -/
theorem exists_refers_of_isReference (h : Told l ls) {row : List Char} (hrow : row ∈ rowsOf ls)
    (href : l.isReference row = true) :
    ∃ line ∈ keep Content.isRefers ls, row = line.content.written.toList := by
  obtain ⟨line, hline, hmem⟩ := List.mem_flatMap.mp hrow
  have htold := h line hline
  have hopens (hopen : startsWithAny l.openings line.content.written.toList = true)
      (hinline : IsInline line.content.written) : row = line.content.written.toList := by
    rw [rows_of_not_mem hinline, Language.startsSolid_of_opens hopen] at hmem
    exact List.mem_singleton.mp hmem
  cases hcontent : line.content with
  | refers kind lead place symbol trail =>
    rw [hcontent] at htold hopens
    refine ⟨line, List.mem_filter.mpr ⟨hline, by rw [hcontent]; rfl⟩, ?_⟩
    rw [hcontent]
    exact hopens (Language.opens_of_isReference htold.2) htold.1
  | imports s =>
    rw [hcontent] at htold hopens
    rw [hopens (Language.opens_of_isImport htold.2) htold.1] at href
    exact absurd href (Bool.eq_false_iff.mp (Language.isReference_of_isImport htold.2))
  | text | declares | heads | passes =>
    have hsilent : Silent l line.content.written :=
      htold.silent (by rw [hcontent]; rfl) (by rw [hcontent]; rfl)
    rw [(hsilent row hmem).2] at href
    cases href

end Back

end Line

end AccessLayer
