import AccessLayer.Proofs.Schema.Comment
import AccessLayer.Proofs.Schema.Occurrence

namespace AccessLayer

namespace Comment

open Text Block

/-- Where no column section is open, at the front of `cs`: no block starts inside a comment, and no
    comment stands inside a header. -/
def HeaderApart (within : Bool) (cs : List Char) : Prop :=
  if within then atFront? cs = none
  else (header? (drop false cs)).isSome → (header? cs).isSome

/-- Behind a closing parenthesis in an open column section: one inside a comment is followed by no
    semicolon, and no comment stands between the last one and its semicolon. -/
def CloseApart (within : Bool) (cs : List Char) : Prop :=
  if within then afterSemicolon cs = none
  else (afterSemicolon (drop false cs)).isSome → (afterSemicolon cs).isSome

/-- Comments stay apart from the marks of blocks, wherever the reading of a text looks for one: for
    headers while no column section is open, for its end while one is. -/
def Apart (opened within : Bool) : List Char → Prop
  | [] => True
  | c :: cs =>
    if opened then
      (c = ')' → CloseApart within cs) ∧
        Apart (!(c == ')' && (afterSemicolon cs).isSome)) (runsOn within c cs) cs
    else
      HeaderApart within (c :: cs) ∧
        Apart (!within && (header? (c :: cs)).isSome) (runsOn within c cs) cs

instance (within : Bool) : DecidablePred (HeaderApart within) := fun cs =>
  inferInstanceAs (Decidable (if within then atFront? cs = none else _))

instance (within : Bool) : DecidablePred (CloseApart within) := fun cs =>
  inferInstanceAs (Decidable (if within then afterSemicolon cs = none else _))

instance decidableApart : (opened within : Bool) → DecidablePred (Apart opened within)
  | _, _, [] => isTrue trivial
  | true, within, c :: cs =>
    have := decidableApart (!(c == ')' && (afterSemicolon cs).isSome)) (runsOn within c cs) cs
    inferInstanceAs (Decidable (_ ∧ _))
  | false, within, c :: cs =>
    have := decidableApart (!within && (header? (c :: cs)).isSome) (runsOn within c cs) cs
    inferInstanceAs (Decidable (_ ∧ _))

private theorem afterSemicolon_drop {cs rest : List Char} (h : afterSemicolon cs = some rest) :
    afterSemicolon (drop false cs) = some (drop false rest) := by
  obtain ⟨gap, hgap, rfl⟩ := afterSemicolon_eq_some h
  rw [drop_append_of_not_mem (hgap.not_mem (by decide)), drop_cons rfl]
  exact afterSemicolon_append hgap _

/-- A character with which no header starts leaves the scan between blocks. -/
theorem Apart.of_cons {c : Char} {cs : List Char} (hc : c.toUpper ≠ 'C') (hdash : c ≠ '-')
    (h : Apart false false (c :: cs)) : Apart false false cs := by
  have hrest := h.2
  rw [header?_cons_eq_none hc, runsOn_false_of_ne hdash] at hrest
  exact hrest

private theorem Apart.behind_semicolon {cs rest : List Char} (h : Apart false false cs)
    (hend : afterSemicolon cs = some rest) : Apart false false rest := by
  obtain ⟨gap, hgap, rfl⟩ := afterSemicolon_eq_some hend
  clear hend
  induction gap with
  | nil => exact h.of_cons (by decide) (by decide)
  | cons c gap ih =>
    have hc : isBlank c = true := hgap c (by simp)
    have hcreate : c.toUpper ≠ 'C' := by
      rw [toUpper_of_isBlank hc]
      rintro rfl
      exact absurd hc (by decide)
    have hdash : c ≠ '-' := by
      rintro rfl
      exact absurd hc (by decide)
    exact ih (fun d hd => hgap d (by simp [hd])) (h.of_cons hcreate hdash)

private theorem Apart.behind_opened {front cs : List Char} (hclose : ')' ∉ front)
    (hdash : '-' ∉ front) (h : Apart true false (front ++ cs)) : Apart true false cs := by
  induction front with
  | nil => exact h
  | cons c front ih =>
    simp only [List.mem_cons, not_or] at hclose hdash
    have hrest := h.2
    rw [runsOn_false_of_ne (Ne.symm hdash.1), beq_eq_false_iff_ne.mpr (Ne.symm hclose.1)] at hrest
    exact ih hclose.2 hdash.2 hrest

private theorem dash_not_mem_header (head : Header) : '-' ∉ head.text :=
  head.not_mem_text (by decide) (by decide) (by decide) (by decide) (by decide) (by decide)

/-- Behind a header the scan goes on in its section. -/
theorem Apart.behind_header {head : Header} {opened : List Char}
    (h : Apart false false (head.text ++ opened)) : Apart true false opened := by
  have hread := header_append head opened
  have hclose := head.close_not_mem
  have hdash := dash_not_mem_header head
  cases htext : head.text with
  | nil =>
    rw [htext] at hread
    simp [Header.text] at htext
  | cons c front =>
    rw [htext, List.cons_append] at h hread
    rw [htext, List.mem_cons, not_or] at hclose hdash
    have hrest := h.2
    rw [hread, runsOn_false_of_ne (Ne.symm hdash.1)] at hrest
    exact hrest.behind_opened hclose.2 hdash.2

/-- No comment runs where a section ends, and between blocks the scan goes on behind it. -/
theorem Apart.behind_close {within : Bool} {cs rest : List Char}
    (h : Apart true within (')' :: cs)) (hend : afterSemicolon cs = some rest) :
    within = false ∧ Apart false false rest := by
  obtain ⟨hclose, hrest⟩ := h
  have hoff : within = false := by
    by_contra hon
    rw [Bool.not_eq_false] at hon
    have hnone : afterSemicolon cs = none := by simpa [CloseApart, hon] using hclose rfl
    rw [hend] at hnone
    cases hnone
  subst hoff
  rw [hend, runsOn_false_of_ne (by decide)] at hrest
  have hafter : Apart false false cs := hrest
  exact ⟨rfl, hafter.behind_semicolon hend⟩

/-- A section that goes on behind a character goes on behind it without the comments too. -/
theorem Apart.within_section {within : Bool} {c : Char} {cs : List Char}
    (h : Apart true within (c :: cs)) (hnone : c = ')' → afterSemicolon cs = none) :
    Apart true (runsOn within c cs) cs ∧
      (runsOn within c cs = false → c = ')' → afterSemicolon (drop false cs) = none) := by
  obtain ⟨hclose, hrest⟩ := h
  refine ⟨?_, ?_⟩
  · have hstays : (!(c == ')' && (afterSemicolon cs).isSome)) = true := by
      simpa [imp_iff_not_or] using hnone
    rw [hstays] at hrest
    exact hrest
  · rintro hruns rfl
    obtain rfl := (runsOn_eq_false hruns).resolve_left (by decide)
    have happart : (afterSemicolon (drop false cs)).isSome → (afterSemicolon cs).isSome :=
      hclose rfl
    simpa [hnone rfl] using happart

private theorem runsOn_of_closing (within : Bool) (c : Char) {cs body rest : List Char}
    (h : closing? cs = some (body, rest)) : runsOn within c cs = runsOn within c body := by
  obtain ⟨gap, -, rfl⟩ := closing_eq_some h
  cases body <;> simp [runsOn]

/-- An open column section ends, if at all, at the same parenthesis with comments and without. -/
theorem closing?_drop {within : Bool} {cs : List Char} (h : Apart true within cs) :
    closing? (drop within cs) =
      (closing? cs).map fun found => (drop within found.1, drop false found.2) := by
  induction cs generalizing within with
  | nil => rfl
  | cons c cs ih =>
    by_cases hends : c = ')' ∧ ∃ rest, afterSemicolon cs = some rest
    · obtain ⟨rfl, rest, hend⟩ := hends
      obtain ⟨rfl, -⟩ := h.behind_close hend
      rw [drop_cons (runsOn_false_of_ne (by decide) _), closing?_close hend,
        closing?_close (afterSemicolon_drop hend)]
      rfl
    · have hnone : c = ')' → afterSemicolon cs = none := by
        simpa [← Option.isSome_iff_exists] using hends
      obtain ⟨hopen, hkept⟩ := h.within_section hnone
      have hinner := ih hopen
      rw [closing?_cons hnone]
      cases hruns : runsOn within c cs with
      | true =>
        rw [hruns] at hinner
        rw [drop_cons_of_runsOn hruns, hinner, Option.map_map]
        refine Option.map_congr fun found hfound => ?_
        have hsame := runsOn_of_closing within c hfound
        simp [drop_cons_of_runsOn (hsame ▸ hruns)]
      | false =>
        rw [hruns] at hinner
        rw [drop_cons hruns, closing?_cons (hkept hruns), hinner, Option.map_map, Option.map_map]
        refine Option.map_congr fun found hfound => ?_
        have hsame := runsOn_of_closing within c hfound
        simp [drop_cons (hsame ▸ hruns)]

/-- Behind a section the scan goes on between blocks. -/
theorem Apart.behind_section {within : Bool} {cs body rest : List Char}
    (h : Apart true within cs) (hclosing : closing? cs = some (body, rest)) :
    Apart false false rest := by
  induction cs generalizing within body with
  | nil => cases hclosing
  | cons c cs ih =>
    by_cases hends : c = ')' ∧ ∃ rest, afterSemicolon cs = some rest
    · obtain ⟨rfl, tail, hend⟩ := hends
      rw [closing?_close hend] at hclosing
      obtain ⟨-, rfl⟩ := Prod.mk.inj (Option.some.inj hclosing)
      exact (h.behind_close hend).2
    · have hnone : c = ')' → afterSemicolon cs = none := by
        simpa [← Option.isSome_iff_exists] using hends
      rw [closing?_cons hnone] at hclosing
      obtain ⟨⟨inner, tail⟩, hfound, heq⟩ := Option.map_eq_some_iff.mp hclosing
      obtain ⟨-, rfl⟩ := Prod.mk.inj heq
      exact ih (h.within_section hnone).1 hfound

/-- A block without the comments in its column section. -/
def dropBlock (b : Block) : Block := ⟨b.name, drop false b.body⟩

/-- A block and the block without its comments are one table. -/
theorem table_dropBlock (b : Block) : (dropBlock b).table = b.table := by
  simp only [Block.table, dropBlock, readColumns_drop]

/-- No comment runs where a block starts. -/
theorem Apart.off_at_block {within : Bool} {cs rest : List Char} {b : Block}
    (h : Apart false within cs) (hfront : atFront? cs = some (b, rest)) : within = false := by
  by_contra hon
  rw [Bool.not_eq_false] at hon
  cases cs with
  | nil => cases hfront
  | cons c cs =>
    have hnone : atFront? (c :: cs) = none := by simpa [HeaderApart, hon] using h.1
    rw [hfront] at hnone
    cases hnone

private theorem all_drop_unclosed {head : Header} {opened : List Char}
    (h : Apart false false (head.text ++ opened)) (hnone : closing? opened = none) :
    all (head.text ++ opened) = [] ∧ all (drop false (head.text ++ opened)) = [] := by
  constructor
  · apply all_eq_nil_of_closing
    rw [closing?_append head.close_not_mem, hnone]
    rfl
  · apply all_eq_nil_of_closing
    rw [drop_append_of_not_mem (dash_not_mem_header head), closing?_append head.close_not_mem,
      closing?_drop h.behind_header, hnone]
    rfl

private theorem Apart.header?_drop {within : Bool} {c : Char} {cs : List Char}
    (h : Apart false within (c :: cs)) (hruns : runsOn within c cs = false)
    (hnone : within = false → header? (c :: cs) = none) :
    header? (c :: drop false cs) = none := by
  rcases runsOn_eq_false hruns with rfl | rfl
  · exact header?_cons_eq_none (by decide) _
  · have happart : (header? (drop false (c :: cs))).isSome → (header? (c :: cs)).isSome := h.1
    rw [drop_cons hruns] at happart
    simpa [hnone rfl] using happart

/-- The blocks of a text are those of the text without its comments, which stand in no mark that the
    scan looks for. Where a section opens that never ends, no block follows, with comments or
    without. -/
theorem all_drop {within : Bool} {cs : List Char} (h : Apart false within cs) :
    all (drop within cs) = (all cs).map dropBlock := by
  fun_induction all cs generalizing within with
  | case1 cs b rest hfront ih =>
    obtain rfl := h.off_at_block hfront
    obtain ⟨head, opened, hname, rfl, hclosing⟩ := exists_header_closing hfront
    have hdropped := closing?_drop h.behind_header
    rw [hclosing] at hdropped
    have hblock := atFront_of_closing head hdropped
    rw [drop_append_of_not_mem (dash_not_mem_header head), all_of_some hblock,
      ih (h.behind_header.behind_section hclosing), List.map_cons, dropBlock, hname]
  | case2 hfront => exact all_eq_nil_of_closing rfl
  | case3 c cs hfront ih =>
    by_cases hopens : within = false ∧ ∃ found, header? (c :: cs) = some found
    · obtain ⟨rfl, ⟨name, opened⟩, hread⟩ := hopens
      obtain ⟨head, -, htext⟩ := exists_header hread
      have hunclosed : closing? opened = none := by
        cases hclosing : closing? opened with
        | none => rfl
        | some found =>
          rw [htext, atFront_of_closing head hclosing] at hfront
          cases hfront
      obtain ⟨hall, hdropped⟩ := all_drop_unclosed (htext ▸ h) hunclosed
      rw [← all_of_none hfront, htext, hall, hdropped]
      rfl
    · have hnone : within = false → header? (c :: cs) = none := by
        simpa [Option.eq_none_iff_forall_not_mem] using hopens
      have hbetween : Apart false (runsOn within c cs) cs := by
        have hstays : (!within && (header? (c :: cs)).isSome) = false := by
          cases within with
          | true => rfl
          | false => rw [hnone rfl]; rfl
        have hrest := h.2
        rw [hstays] at hrest
        exact hrest
      cases hruns : runsOn within c cs with
      | true =>
        rw [hruns] at hbetween
        rw [drop_cons_of_runsOn hruns, ih hbetween]
      | false =>
        rw [hruns] at hbetween
        rw [drop_cons hruns, all_of_none (atFront?_eq_none_of_header (h.header?_drop hruns hnone)),
          ih hbetween]

end Comment

/-- The text without its comments. -/
def withoutComments (text : String) : String := String.ofList (Comment.drop false text.toList)

/-- No comment of the text holds or parts a mark by which a block is found. -/
def CommentsApart (text : String) : Prop := Comment.Apart false false text.toList

instance : DecidablePred CommentsApart := fun text =>
  inferInstanceAs (Decidable (Comment.Apart false false text.toList))

/-- Comments in a column section never matter to its columns; those of a whole text do not matter to
    its tables as long as they stay apart from the marks of blocks. -/
theorem readSchema_withoutComments (text : String) :
    (∀ body, readColumns (Comment.drop false body) = readColumns body) ∧
      (CommentsApart text → readSchema (withoutComments text) = readSchema text) := by
  refine ⟨Comment.readColumns_drop, fun hapart => ?_⟩
  rw [readSchema, withoutComments, String.toList_ofList, Comment.all_drop hapart, List.map_map,
    readSchema]
  exact List.map_congr_left fun b _ => Comment.table_dropBlock b

/-- Parentheses, semicolons, commas and even headers stand in its comments. -/
def annotated : String :=
  "-- shop (draft);\nCREATE TABLE users ( -- people, all (!)\n" ++
    "  id UUID PRIMARY KEY, -- CREATE TABLE a (x),\n  name TEXT -- shown;\n);\n-- end"

/-- Comments between words and lines that hold no mark of a block. -/
theorem readSchema_withoutComments_annotated :
    CommentsApart annotated ∧ readSchema (withoutComments annotated) = readSchema annotated :=
  ⟨by decide +kernel, (readSchema_withoutComments annotated).2 (by decide +kernel)⟩

/-- The parenthesis in the comment ends the column section before the second column. -/
def cutShort : String := "CREATE TABLE a (\n  x TEXT, -- note (see doc);\n  y TEXT\n);"

/-- A comment with a closing parenthesis before a semicolon ends the section, so that what stands
    behind it is lost. -/
theorem readSchema_withoutComments_ne_cutShort :
    readSchema (withoutComments cutShort) ≠ readSchema cutShort ∧
      (readSchema cutShort).map (·.columns.map (·.name)) = [["x"]] ∧
      (readSchema (withoutComments cutShort)).map (·.columns.map (·.name)) = [["x", "y"]] := by
  decide +kernel

end AccessLayer
