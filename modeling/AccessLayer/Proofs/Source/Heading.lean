import AccessLayer.Proofs.Source.Row

namespace AccessLayer

open Text

/-- How a file spells the operations: what stands before a signature, what behind it, and the
    signatures. -/
structure Heading where
  lead : String
  trail : String
  signature : Operation → String

namespace Heading

/-- How the line starts that is about the operation. -/
def head (h : Heading) (op : Operation) : String := h.lead ++ h.signature op

/-- The line starts an operation as the file does, or it starts with none of the marks. -/
def Fits (h : Heading) (marks : List (List Char)) : Content → Prop
  | .heads op lead signature trail =>
    lead = h.lead ∧ signature = h.signature op ∧ trail = h.trail
  | content => Quiet marks content.written

/-- All of the lines fit. -/
def FitsAll (h : Heading) (marks : List (List Char)) (ls : List Line) : Prop :=
  ∀ line ∈ ls, h.Fits marks line.content

section Fits

variable (h : Heading) (marks : List (List Char))

@[simp] theorem fits_text (s : String) : h.Fits marks (.text s) ↔ Quiet marks s := Iff.rfl

@[simp] theorem fits_imports (s : String) : h.Fits marks (.imports s) ↔ Quiet marks s := Iff.rfl

@[simp] theorem fits_refers (kind : Kind) (lead place joint symbol trail : String) :
    h.Fits marks (.refers kind lead place (some (joint, symbol)) trail) ↔
      Quiet marks (lead ++ place ++ joint ++ symbol ++ trail) := Iff.rfl

@[simp] theorem fits_refers_none (kind : Kind) (lead place trail : String) :
    h.Fits marks (.refers kind lead place none trail) ↔ Quiet marks (lead ++ place ++ trail) :=
  Iff.rfl

@[simp] theorem fits_declares (lead name trail : String) :
    h.Fits marks (.declares lead name trail) ↔ Quiet marks (lead ++ name ++ trail) := Iff.rfl

@[simp] theorem fits_heads (op : Operation) (lead signature trail : String) :
    h.Fits marks (.heads op lead signature trail) ↔
      lead = h.lead ∧ signature = h.signature op ∧ trail = h.trail := Iff.rfl

@[simp] theorem fits_passes (lead : String) (a : Argument) (trail : String) :
    h.Fits marks (.passes lead a trail) ↔ Quiet marks (lead ++ a.text ++ trail) := Iff.rfl

end Fits

section FitsAll

variable (h : Heading) (marks : List (List Char)) (ls ls' : List Line)

@[simp] theorem fitsAll_nil : h.FitsAll marks [] := fun _ hmem => by cases hmem

@[simp] theorem fitsAll_cons (line : Line) :
    h.FitsAll marks (line :: ls) ↔ h.Fits marks line.content ∧ h.FitsAll marks ls :=
  List.forall_mem_cons

@[simp] theorem fitsAll_append :
    h.FitsAll marks (ls ++ ls') ↔ h.FitsAll marks ls ∧ h.FitsAll marks ls' :=
  List.forall_mem_append

@[simp] theorem fitsAll_indent : h.FitsAll marks (Line.indent ls) ↔ h.FitsAll marks ls := by
  simp [FitsAll, Line.indent]

@[simp] theorem fitsAll_block (top foot : Line) :
    h.FitsAll marks (Line.block top ls foot) ↔
      h.Fits marks top.content ∧ h.FitsAll marks ls ∧ h.Fits marks foot.content := by
  simp [Line.block]

@[simp] theorem fitsAll_braced (top : String) :
    h.FitsAll marks (Line.braced top ls) ↔
      Quiet marks (top ++ " \x7b") ∧ h.FitsAll marks ls ∧ Quiet marks "\x7d" := by
  simp [Line.braced]

@[simp] theorem fitsAll_sections (groups : List (List Line)) :
    h.FitsAll marks (Line.sections groups) ↔ ∀ g ∈ groups, h.FitsAll marks g := by
  simp only [FitsAll, Line.sections, List.mem_flatten]
  constructor
  · intro hall g hg line hline
    exact hall line ⟨g, hg, hline⟩
  · rintro hall line ⟨g, hg, hline⟩
    exact hall g hg line hline

@[simp] theorem fitsAll_onlyIf (condition : Bool) :
    h.FitsAll marks (Line.onlyIf condition ls) ↔ (condition = true → h.FitsAll marks ls) := by
  cases condition <;> simp [Line.onlyIf]

@[simp] theorem fitsAll_map {α : Type} (line : α → Line) (xs : List α) :
    h.FitsAll marks (xs.map line) ↔ ∀ x ∈ xs, h.Fits marks (line x).content := List.forall_mem_map

@[simp] theorem fitsAll_flatMap {α : Type} (lines : α → List Line) (xs : List α) :
    h.FitsAll marks (xs.flatMap lines) ↔ ∀ x ∈ xs, h.FitsAll marks (lines x) := by
  simp only [FitsAll, List.mem_flatMap]
  exact ⟨fun hall x hx line hline => hall line ⟨x, hx, hline⟩,
    fun hall line ⟨x, hx, hline⟩ => hall x hx line hline⟩

end FitsAll

/-- The heads can be told from each other and, by the marks, from other lines. With what follows it
    each stands on one line. -/
structure Distinct (h : Heading) (marks : List (List Char)) : Prop where
  inline : ∀ op, IsInline (h.head op ++ h.trail)
  solid : ∀ m ∈ marks, m ≠ [] ∧ StartsSolid m
  marked : ∀ op, ∃ m ∈ marks, m <+: (h.head op).toList
  apart : ∀ op op', op ≠ op' → ¬ (h.signature op).toList <+: (h.signature op' ++ h.trail).toList

section Rows

variable {h : Heading} {marks : List (List Char)} {ls : List Line}

/-- A head begins with no blank. -/
theorem Distinct.startsSolid (hdistinct : h.Distinct marks) (op : Operation) :
    StartsSolid (h.head op ++ h.trail).toList := by
  obtain ⟨m, hm, rest, hhead⟩ := hdistinct.marked op
  obtain ⟨hne, hsolid⟩ := hdistinct.solid m hm
  rw [String.toList_append, ← hhead, List.append_assoc]
  exact hsolid.append hne _

/-- The head of one operation starts no line of another. -/
theorem Distinct.not_starts (hdistinct : h.Distinct marks) {op op' : Operation} (hop : op ≠ op') :
    ¬ (h.head op).toList <+: (h.head op' ++ h.trail).toList := by
  intro hstarts
  rw [head, head, String.append_assoc, String.toList_append, String.toList_append,
    List.prefix_append_right_inj] at hstarts
  exact hdistinct.apart op op' hop hstarts

/-- A line that starts with no mark starts with no head. -/
theorem Distinct.not_starts_row (hdistinct : h.Distinct marks) {s : String}
    (hquiet : Quiet marks s) : ∀ row ∈ rows s.toList, ∀ op, ¬ (h.head op).toList <+: row := by
  intro row hrow op hstarts
  rw [rows_of_not_mem hquiet.1] at hrow
  obtain rfl := List.mem_singleton.mp hrow
  obtain ⟨m, hm, hmark⟩ := hdistinct.marked op
  exact hquiet.2 m hm (hmark.trans hstarts)

private theorem filter_eq_nil_of_silent {rs : List (List Char)} {op : Operation}
    (hsilent : ∀ row ∈ rs, ∀ op, ¬ (h.head op).toList <+: row) :
    rs.filter ((h.head op).toList.isPrefixOf ·) = [] := by
  rw [List.filter_eq_nil_iff]
  intro row hrow
  simpa using hsilent row hrow op

private theorem filter_rows_of_fits (hdistinct : h.Distinct marks) {line : Line}
    (hfits : h.Fits marks line.content) (op : Operation) :
    (rows line.content.written.toList).filter ((h.head op).toList.isPrefixOf ·) =
      ((Line.heads [line]).map Prod.fst |>.filter (· == op)).map
        fun _ => (h.head op ++ h.trail).toList := by
  obtain ⟨depth, content⟩ := line
  cases content with
  | heads op' lead signature trail =>
    obtain ⟨rfl, rfl, rfl⟩ := hfits
    change (rows (h.head op' ++ h.trail).toList).filter _ = _
    rw [rows_of_not_mem (hdistinct.inline op'), hdistinct.startsSolid op']
    by_cases hop : op' = op
    · subst hop
      simp
    · have hapart := hdistinct.not_starts (Ne.symm hop)
      rw [String.toList_append] at hapart
      simp [hop, hapart]
  | _ =>
    rw [filter_eq_nil_of_silent (hdistinct.not_starts_row hfits)]
    rfl

/-- The lines that start with the head of an operation are those that are tagged with it. A line
    without a tag would have to start with a mark. -/
theorem filter_rowsOf (hdistinct : h.Distinct marks) (hfits : h.FitsAll marks ls)
    (op : Operation) :
    (Line.rowsOf ls).filter ((h.head op).toList.isPrefixOf ·) =
      ((Line.heads ls).map Prod.fst |>.filter (· == op)).map
        fun _ => (h.head op ++ h.trail).toList := by
  induction ls with
  | nil => rfl
  | cons line ls ih =>
    obtain ⟨hline, hrest⟩ := (fitsAll_cons h marks ls line).mp hfits
    have hheads : Line.heads (line :: ls) = Line.heads [line] ++ Line.heads ls :=
      Line.heads_append [line] ls
    rw [Line.rowsOf_cons, List.filter_append, filter_rows_of_fits hdistinct hline op, ih hrest,
      hheads, List.map_append, List.filter_append, List.map_append]

/-- A file in which every operation has one tagged line starts each of them once. Lines may come
    before that hold arbitrary text, if none of it starts like a head. -/
theorem headsOnce_render (l : Language) {front : List Line} (hdistinct : h.Distinct marks)
    (hfront : ∀ row ∈ Line.rowsOf front, ∀ op, ¬ (h.head op).toList <+: row)
    (hfits : h.FitsAll marks ls) (hops : (Line.heads ls).map Prod.fst = Operation.all)
    (op : Operation) : HeadsOnce (Line.render l (front ++ ls)) (h.head op) h.trail := by
  have hne : front ++ ls ≠ [] := by
    intro hnil
    rw [(List.append_eq_nil_iff.mp hnil).2] at hops
    cases hops
  have hsplit : Line.rowsOf (front ++ ls) = Line.rowsOf front ++ Line.rowsOf ls :=
    List.flatMap_append
  rw [HeadsOnce, Line.rows_render l hne, hsplit, List.filter_append,
    filter_eq_nil_of_silent hfront, filter_rowsOf hdistinct hfits, hops]
  cases op <;> rfl

/-- Where all lines fit and every operation has one tagged line, the text starts each of them
    once. -/
theorem headsOnce_render_of_fits (l : Language) (hdistinct : h.Distinct marks)
    (hfits : h.FitsAll marks ls) (hops : (Line.heads ls).map Prod.fst = Operation.all)
    (op : Operation) : HeadsOnce (Line.render l ls) (h.head op) h.trail :=
  @headsOnce_render h marks ls l [] hdistinct (fun _ hrow => by cases hrow) hfits hops op

end Rows

end Heading

end AccessLayer
