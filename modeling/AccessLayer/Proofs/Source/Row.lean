import AccessLayer.Proofs.Source.Line
import AccessLayer.Proofs.Text.Inline

namespace AccessLayer

namespace Text

/-- The lines of a text without the blanks that they start with. -/
def rows (cs : List Char) : List (List Char) :=
  (pieces (· == '\n') cs).map (·.dropWhile isBlank)

/-- Text behind a line break has rows of its own. -/
theorem rows_append_newline (cs ds : List Char) : rows (cs ++ '\n' :: ds) = rows cs ++ rows ds := by
  rw [rows, pieces_append_separator rfl, List.map_append]
  rfl

/-- A text without line breaks is one row, without its indentation. -/
theorem rows_of_not_mem {cs : List Char} (h : '\n' ∉ cs) : rows cs = [cs.dropWhile isBlank] := by
  rw [rows, pieces_of_free (fun c hc => ?_)]
  · rfl
  · simp only [beq_eq_false_iff_ne]
    rintro rfl
    exact h hc

/-- A row is made of characters of the text. -/
theorem mem_of_mem_rows {cs row : List Char} (hrow : row ∈ rows cs) : ∀ c ∈ row, c ∈ cs := by
  intro c hc
  obtain ⟨p, hp, rfl⟩ := List.mem_map.mp hrow
  exact (mem_of_mem_pieces hp ((List.dropWhile_suffix _).subset hc)).1

/-- Indentation does not show. -/
theorem rows_gap_append {gap : List Char} (hgap : IsGap gap) (hbreak : '\n' ∉ gap)
    (cs : List Char) : rows (gap ++ cs) = rows cs := by
  obtain ⟨p, ps, hpieces⟩ := List.exists_cons_of_ne_nil (pieces_ne_nil (· == '\n') cs)
  have hfree : ∀ c ∈ gap, (c == '\n') = false := by
    intro c hc
    simp only [beq_eq_false_iff_ne]
    rintro rfl
    exact hbreak hc
  rw [rows, pieces_append hfree hpieces, rows, hpieces, List.map_cons, List.map_cons,
    List.dropWhile_append_of_pos hgap]

end Text

open Text

namespace Line

variable (l : Language)

/-- What the text of some lines shows of them. -/
def rowsOf (ls : List Line) : List (List Char) :=
  ls.flatMap fun line => rows line.content.written.toList

/-- The rows of a line come before those of the lines below it. -/
theorem rowsOf_cons (line : Line) (ls : List Line) :
    rowsOf (line :: ls) = rows line.content.written.toList ++ rowsOf ls := rfl

/-- An indentation is a gap on one line. -/
theorem indentation_toList (depth : Nat) :
    IsGap (indentation l depth).toList ∧ '\n' ∉ (indentation l depth).toList := by
  have hstep : IsGap (step l).toList ∧ '\n' ∉ (step l).toList := by cases l <;> decide
  induction depth with
  | zero => exact ⟨IsGap.nil, by simp [indentation]⟩
  | succ depth ih =>
    have hsucc : indentation l (depth + 1) = step l ++ indentation l depth := by
      rw [indentation, List.replicate_succ, String.join_cons]
      rfl
    rw [hsucc, String.toList_append]
    exact ⟨hstep.1.append ih.1, by simp [hstep.2, ih.2]⟩

/-- How far in a line stands does not show in its rows. -/
theorem rows_written (line : Line) :
    rows (written l line).toList = rows line.content.written.toList := by
  obtain ⟨depth, content⟩ := line
  by_cases h : content.written = ""
  · simp [written, h]
  · obtain ⟨hgap, hbreak⟩ := indentation_toList l depth
    rw [written_of_ne_empty l h, String.toList_append, rows_gap_append hgap hbreak]

/-- The rows of a text are those of the lines that it was rendered from. -/
theorem rows_render {ls : List Line} (hne : ls ≠ []) : rows (render l ls).toList = rowsOf ls := by
  rw [read_render l rows_append_newline hne, rowsOf]
  simp only [rows_written]

end Line

/-- Of the lines of the text just one starts with `head`, and nothing but `trail` follows there. -/
def HeadsOnce (text head trail : String) : Prop :=
  (rows text.toList).filter (head.toList.isPrefixOf ·) = [(head ++ trail).toList]

/-- Neither text starts with the other, so no text starts with both. -/
def Diverge (cs ds : List Char) : Prop := ¬ cs <+: ds ∧ ¬ ds <+: cs

instance (cs ds : List Char) : Decidable (Diverge cs ds) := inferInstanceAs (Decidable (_ ∧ _))

/-- What diverges from a text is not empty. -/
theorem Diverge.ne_nil {cs ds : List Char} (h : Diverge cs ds) : ds ≠ [] := by
  rintro rfl
  exact h.2 (List.nil_prefix)

/-- Texts diverge from each other. -/
theorem Diverge.symm {cs ds : List Char} (h : Diverge cs ds) : Diverge ds cs := And.symm h

/-- Texts that diverge do so whatever stands behind them. -/
theorem Diverge.not_starts {cs ds : List Char} (h : Diverge cs ds) (more rest : List Char) :
    ¬ cs ++ more <+: ds ++ rest := fun hstarts =>
  (List.prefix_or_prefix_of_prefix ((List.prefix_append cs more).trans hstarts)
    (List.prefix_append ds rest)).elim h.1 h.2

/-- The text stands on one line and starts with none of the marks. -/
def Quiet (marks : List (List Char)) (s : String) : Prop :=
  IsInline s ∧ ∀ m ∈ marks, ¬ m <+: s.toList.dropWhile isBlank

/-- The text tells a line that starts with it from every line that starts with a mark. -/
def Apart (marks : List (List Char)) (lead : List Char) : Prop :=
  '\n' ∉ lead ∧ ∀ m ∈ marks, Diverge m (lead.dropWhile isBlank)

instance (marks : List (List Char)) (lead : List Char) : Decidable (Apart marks lead) :=
  inferInstanceAs (Decidable (_ ∧ _))

/-- A literal is told apart by its characters. -/
theorem apart_ofList {marks : List (List Char)} {cs : List Char} (h : Apart marks cs) :
    Apart marks (String.ofList cs).toList := by
  rwa [String.toList_ofList]

/-- A literal without line breaks stands on one line. Put as being told apart from no marks, the
    condition can be decided from its characters. -/
@[simp] theorem isInline_of_apart {s : String} (h : Apart [] s.toList) : IsInline s := h.1

section Quiet

variable {marks : List (List Char)}

private theorem dropWhile_append_of_ne_nil {cs : List Char} (h : cs.dropWhile isBlank ≠ [])
    (rest : List Char) : (cs ++ rest).dropWhile isBlank = cs.dropWhile isBlank ++ rest := by
  rw [List.dropWhile_append, if_neg (by simpa using h)]

/-- A line is told from marks by the literal with which it begins, whatever name follows, if that
    holds no line break. -/
@[simp] theorem quiet_append {lead : String} (h : Apart marks lead.toList) (rest : String) :
    Quiet marks (lead ++ rest) ↔ IsInline rest := by
  obtain ⟨hlead, hdiverge⟩ := h
  refine ⟨fun hquiet => ((isInline_append _ _).mp hquiet.1).2, fun hrest => ⟨?_, ?_⟩⟩
  · exact (isInline_append _ _).mpr ⟨hlead, hrest⟩
  · intro m hm hstarts
    rw [String.toList_append, dropWhile_append_of_ne_nil (hdiverge m hm).ne_nil,
      ← List.append_nil m] at hstarts
    exact (hdiverge m hm).not_starts [] _ hstarts

/-- Where one literal does not tell the line apart, two may. -/
theorem quiet_ofList_append {cs ds : List Char} (h : Apart marks (cs ++ ds)) (rest : String) :
    Quiet marks (String.ofList cs ++ (String.ofList ds ++ rest)) ↔ IsInline rest := by
  rw [← String.append_assoc, ← String.ofList_append]
  exact quiet_append (apart_ofList h) rest

/-- A literal that is told apart stands on a line of its own. -/
@[simp] theorem quiet_of_apart {s : String} (h : Apart marks s.toList) : Quiet marks s := by
  have hquiet := (quiet_append h "").mpr (by decide)
  rwa [String.append_empty] at hquiet

/-- A line is told apart by its beginning. -/
theorem quiet_of_start {s : String} {lead : List Char} (hstart : lead <+: s.toList)
    (h : Apart marks lead) (hinline : IsInline s) : Quiet marks s := by
  obtain ⟨rest, hrest⟩ := hstart
  have hsplit : s = String.ofList lead ++ String.ofList rest := by
    rw [← String.toList_inj, String.toList_append, String.toList_ofList, String.toList_ofList,
      hrest]
  rw [hsplit, quiet_append (apart_ofList h)]
  rw [hsplit, isInline_append] at hinline
  exact hinline.2

/-- An empty line starts with no mark. -/
@[simp] theorem quiet_empty (h : [] ∉ marks) : Quiet marks "" := by
  refine ⟨by decide, fun m hm hstarts => ?_⟩
  rw [List.prefix_nil.mp hstarts] at hm
  exact h hm

private theorem exists_tail_of_starts {word more name rest : List Char}
    (hmore : ∃ c cs, more = c :: cs ∧ isBlank c = true) (hname : IsSolid name)
    (h : word ++ more <+: name ++ rest) : ∃ tail, tail <:+ word ∧ tail ++ more <+: rest := by
  induction name generalizing word with
  | nil => exact ⟨word, List.suffix_refl word, h⟩
  | cons c name ih =>
    cases word with
    | nil =>
      obtain ⟨d, ds, rfl, hd⟩ := hmore
      obtain ⟨rfl, -⟩ := List.cons_prefix_cons.mp h
      rw [hname d (by simp)] at hd
      cases hd
    | cons d word =>
      obtain ⟨-, hrest⟩ := List.cons_prefix_cons.mp h
      obtain ⟨tail, htail, hstarts⟩ := ih (fun e he => hname e (by simp [he])) hrest
      exact ⟨tail, htail.trans (List.suffix_cons d word), hstarts⟩

/-- Behind a text without blanks, `lit` tells a line from every line that starts with a mark: the
    first word of a mark would have to reach into `lit`. -/
def ApartBehindName (marks : List (List Char)) (lit : List Char) : Prop :=
  Apart marks lit ∧ ∀ m ∈ marks, m.dropWhile (!isBlank ·) ≠ [] ∧
    ∀ tail ∈ (m.takeWhile (!isBlank ·)).tails, Diverge (tail ++ m.dropWhile (!isBlank ·)) lit

instance (marks : List (List Char)) (lit : List Char) : Decidable (ApartBehindName marks lit) :=
  inferInstanceAs (Decidable (_ ∧ _))

/-- A line that begins with a name is told apart by the literal behind the name, as names hold no
    blanks. -/
theorem quiet_name_append {name lit : String} (hname : IsSolid name.toList)
    (h : ApartBehindName marks lit.toList) (rest : String) :
    Quiet marks (name ++ (lit ++ rest)) ↔ IsInline rest := by
  obtain ⟨hapart, hbehind⟩ := h
  by_cases hempty : name = ""
  · rw [hempty, String.empty_append]
    exact quiet_append hapart rest
  · have hlit : IsInline lit := hapart.1
    have hinline : IsInline (name ++ (lit ++ rest)) ↔ IsInline rest := by
      simp [isInline_of_isSolid hname, hlit]
    refine ⟨fun hquiet => hinline.mp hquiet.1, fun hrest => ⟨hinline.mpr hrest, ?_⟩⟩
    intro m hm hstarts
    obtain ⟨hne, hdiverge⟩ := hbehind m hm
    have hsolid : (name ++ (lit ++ rest)).toList.dropWhile isBlank =
        name.toList ++ (lit.toList ++ rest.toList) := by
      have hchars : name.toList ≠ [] := by simpa using hempty
      rw [String.toList_append, String.toList_append]
      cases hname' : name.toList with
      | nil => exact absurd hname' hchars
      | cons c cs =>
        rw [hname'] at hname
        exact StartsSolid.cons (hname c (by simp)) _
    rw [hsolid, ← List.takeWhile_append_dropWhile (p := (!isBlank ·)) (l := m)] at hstarts
    have hblank : ∃ c cs, m.dropWhile (!isBlank ·) = c :: cs ∧ isBlank c = true := by
      obtain ⟨c, cs, hcons⟩ := List.exists_cons_of_ne_nil hne
      have hhead := List.head?_dropWhile_not (!isBlank ·) m
      rw [hcons] at hhead
      exact ⟨c, cs, hcons, by simpa using hhead⟩
    obtain ⟨tail, htail, hrest⟩ := exists_tail_of_starts hblank hname hstarts
    refine (hdiverge tail ((List.mem_tails _ _).mpr htail)).not_starts [] rest.toList ?_
    rwa [List.append_nil]

/-- A name in front of a literal does not make it a mark. -/
theorem quiet_name {name lit : String} (hname : IsSolid name.toList)
    (h : ApartBehindName marks lit.toList) : Quiet marks (name ++ lit) := by
  have hquiet := (quiet_name_append hname h "").mpr (by decide)
  rwa [String.append_empty] at hquiet

end Quiet

end AccessLayer
