import AccessLayer.Proofs.Text.Words
import AccessLayer.Schema.Fragment

namespace AccessLayer

namespace Fragment

open Text

/-- No comment starts in the text, or at its end unless a hyphen follows. -/
def Uncommented (cs : List Char) : Prop :=
  ∀ more, more.head? ≠ some '-' → beforeComment (cs ++ more) = cs ++ beforeComment more

/-- The text is cut nowhere, and leaves no parenthesis open. -/
def Uncut (cs : List Char) : Prop :=
  ∀ more p ps, cut 0 more = p :: ps → cut 0 (cs ++ more) = (cs ++ p) :: ps

/-- A character is kept unless it starts a comment together with the next. -/
theorem beforeComment_cons {c : Char} {cs : List Char} (h : c ≠ '-' ∨ cs.head? ≠ some '-') :
    beforeComment (c :: cs) = c :: beforeComment cs := by
  rw [beforeComment]
  rintro tail rfl rfl
  simp at h

private theorem beforeComment_cases (c : Char) (line : List Char) :
    beforeComment (c :: line) = [] ∨
      (c ≠ '-' ∨ line.head? ≠ some '-') ∧ beforeComment (c :: line) = c :: beforeComment line := by
  by_cases hpair : c = '-' ∧ line.head? = some '-'
  · obtain ⟨rfl, hnext⟩ := hpair
    obtain ⟨tail, rfl⟩ := List.head?_eq_some_iff.mp hnext
    exact Or.inl rfl
  · have hkept := not_and_or.mp hpair
    exact Or.inr ⟨hkept, beforeComment_cons hkept⟩

/-- What stands before a comment is a beginning of the line. -/
theorem prefix_beforeComment (line : List Char) : beforeComment line <+: line := by
  induction line with
  | nil => exact List.prefix_rfl
  | cons c line ih =>
    rcases beforeComment_cases c line with hnil | ⟨-, hcons⟩
    · rw [hnil]
      exact List.nil_prefix
    · rw [hcons]
      exact (List.prefix_cons_inj c).mpr ih

/-- No comment starts before the first. -/
theorem no_dashes_beforeComment (line : List Char) : ¬ ['-', '-'] <:+: beforeComment line := by
  induction line with
  | nil => simp [beforeComment]
  | cons c line ih =>
    rcases beforeComment_cases c line with hnil | ⟨hkept, hcons⟩
    · simp [hnil]
    · rw [hcons, List.infix_cons_iff]
      rintro (hstart | hrest)
      · -- The second hyphen would stand at the front of what follows the first.
        obtain ⟨rfl, hnext⟩ := List.cons_prefix_cons.mp hstart
        obtain ⟨tail, rfl⟩ := hnext.trans (prefix_beforeComment line)
        exact hkept.elim (fun h => h rfl) fun h => h rfl
      · exact ih hrest

/-- No comment starts in nothing. -/
theorem Uncommented.nil : Uncommented [] := fun _ _ => rfl

/-- No comment starts where two texts meet, if the second does not start with a hyphen. -/
theorem Uncommented.append {cs ds : List Char} (hc : Uncommented cs) (hd : Uncommented ds)
    (hhead : ds.head? ≠ some '-') : Uncommented (cs ++ ds) := by
  intro more hmore
  have hseam : (ds ++ more).head? ≠ some '-' := by
    cases ds with
    | nil => exact hmore
    | cons d ds => simpa using hhead
  rw [List.append_assoc, hc _ hseam, hd _ hmore, List.append_assoc]

/-- Without two hyphens in a row there is no comment. -/
theorem uncommented_of_no_dashes {cs : List Char} (h : ¬ ['-', '-'] <:+: cs) : Uncommented cs := by
  induction cs with
  | nil => exact Uncommented.nil
  | cons c cs ih =>
    intro more hmore
    have hrest : ¬ ['-', '-'] <:+: cs := fun hin => h (hin.trans (List.suffix_cons c cs).isInfix)
    have hpair : c ≠ '-' ∨ (cs ++ more).head? ≠ some '-' := by
      by_contra hboth
      obtain ⟨rfl, hnext⟩ := by simpa using hboth
      cases cs with
      | nil => exact hmore (by simpa using hnext)
      | cons d ds =>
        obtain rfl : d = '-' := by simpa using hnext
        exact h ⟨[], ds, rfl⟩
    rw [List.cons_append, beforeComment_cons hpair, ih hrest more hmore, List.cons_append]

/-- Text without hyphens is kept whole in front of any other. -/
theorem beforeComment_append_of_not_mem {cs : List Char} (h : '-' ∉ cs) (more : List Char) :
    beforeComment (cs ++ more) = cs ++ beforeComment more := by
  induction cs with
  | nil => rfl
  | cons c cs ih =>
    simp only [List.mem_cons, not_or] at h
    rw [List.cons_append, beforeComment_cons (Or.inl (Ne.symm h.1)), ih h.2, List.cons_append]

/-- Without hyphens there is no comment. -/
theorem uncommented_of_not_mem {cs : List Char} (h : '-' ∉ cs) : Uncommented cs :=
  fun more _ => beforeComment_append_of_not_mem h more

/-- A line has a fragment, be it empty. -/
theorem cut_ne_nil (depth : Nat) (cs : List Char) : cut depth cs ≠ [] := by
  cases cs with
  | nil => simp [cut]
  | cons c cs =>
    simp only [cut]
    split
    · simp
    · cases cut (depthAfter depth c) cs <;> simp [extendFirst]

/-- Texts that are not cut are not cut together. -/
theorem Uncut.append {cs ds : List Char} (hc : Uncut cs) (hd : Uncut ds) : Uncut (cs ++ ds) := by
  intro more p ps hmore
  rw [List.append_assoc, hc _ _ _ (hd _ _ _ hmore), List.append_assoc]

/-- Without parentheses the depth stays, so inside some a text is not cut even at its commas. -/
theorem cut_append {depth : Nat} {cs more p : List Char} {ps : List (List Char)}
    (hcs : ∀ c ∈ cs, c ≠ '(' ∧ c ≠ ')' ∧ (c ≠ ',' ∨ depth ≠ 0)) (hmore : cut depth more = p :: ps) :
    cut depth (cs ++ more) = (cs ++ p) :: ps := by
  induction cs with
  | nil => exact hmore
  | cons c cs ih =>
    obtain ⟨hopen, hclose, hcomma⟩ := hcs c (by simp)
    have hrest := ih fun d hd => hcs d (by simp [hd])
    have hdepth : depthAfter depth c = depth := by simp [depthAfter, hopen, hclose]
    have hkeep : ¬ (c = ',' ∧ depth = 0) := by tauto
    rw [List.cons_append, cut, if_neg hkeep, hdepth, hrest]
    rfl

/-- Text without parentheses and commas is not cut. -/
theorem uncut_of_plain {cs : List Char} (h : ∀ c ∈ cs, c ≠ '(' ∧ c ≠ ')' ∧ c ≠ ',') : Uncut cs := by
  intro more p ps hmore
  apply cut_append _ hmore
  intro c hc
  obtain ⟨hopen, hclose, hcomma⟩ := h c hc
  exact ⟨hopen, hclose, Or.inl hcomma⟩

/-- Commas in parentheses cut nothing. -/
theorem uncut_parenthesised {inner : List Char} (h : ∀ c ∈ inner, c ≠ '(' ∧ c ≠ ')') :
    Uncut ('(' :: (inner ++ [')'])) := by
  intro more p ps hmore
  have hclosed : cut 1 (')' :: more) = (')' :: p) :: ps := by
    rw [cut, if_neg (by simp)]
    change extendFirst ')' (cut 0 more) = _
    rw [hmore]
    rfl
  have hinner : cut 1 (inner ++ ')' :: more) = (inner ++ ')' :: p) :: ps := by
    apply cut_append _ hclosed
    intro c hc
    exact ⟨(h c hc).1, (h c hc).2, Or.inr (by decide)⟩
  rw [List.cons_append, List.append_assoc, List.singleton_append, cut, if_neg (by simp)]
  change extendFirst '(' (cut 1 (inner ++ ')' :: more)) = _
  rw [hinner]
  simp [extendFirst]

/-- Line breaks separate sections that are read on their own. -/
theorem ofBody_append_newline (cs more : List Char) :
    ofBody (cs ++ '\n' :: more) = ofBody cs ++ ofBody more := by
  simp only [ofBody]
  rw [pieces_append_separator (by decide)]
  simp

/-- Blanks in front of a section hold no fragment. -/
theorem ofBody_cons_blank {c : Char} (hc : isBlank c = true) (cs : List Char) :
    ofBody (c :: cs) = ofBody cs := by
  by_cases hbreak : c = '\n'
  · subst hbreak
    exact ofBody_append_newline [] cs
  · have hfree : ∀ d ∈ [c], (d == '\n') = false := by simpa using hbreak
    have hsolid {d : Char} (hd : isBlank d = false) : c ≠ d := by
      rintro rfl
      rw [hc] at hd
      cases hd
    have hcut : Uncut [c] := by
      apply uncut_of_plain
      intro d hd
      obtain rfl := List.mem_singleton.mp hd
      exact ⟨hsolid (by decide), hsolid (by decide), hsolid (by decide)⟩
    obtain ⟨line, lines, hlines⟩ := List.exists_cons_of_ne_nil (pieces_ne_nil (· == '\n') cs)
    obtain ⟨f, fs, hfs⟩ := List.exists_cons_of_ne_nil (cut_ne_nil 0 (beforeComment line))
    have hline : ofLine (c :: line) = (c :: f) :: fs := by
      rw [ofLine, beforeComment_cons (Or.inl (hsolid (by decide)))]
      exact hcut _ _ _ hfs
    have hpieces : pieces (· == '\n') (c :: cs) = (c :: line) :: lines := pieces_append hfree hlines
    simp only [ofBody, hpieces, hlines, List.flatMap_cons, hline, List.map_append, List.map_cons]
    rw [ofLine, hfs, List.map_cons, trim_cons_blank hc]

/-- A gap in front of a section holds no fragment. -/
theorem ofBody_append_gap {gap : List Char} (hgap : IsGap gap) (cs : List Char) :
    ofBody (gap ++ cs) = ofBody cs := by
  induction gap with
  | nil => rfl
  | cons c gap ih =>
    rw [List.cons_append, ofBody_cons_blank (hgap c (by simp)), ih fun d hd => hgap d (by simp [hd])]

/-- An empty section has no fragments. -/
theorem ofBody_nil : ofBody [] = [] := rfl

/-- A gap alone has no fragments. -/
theorem ofBody_gap {gap : List Char} (hgap : IsGap gap) : ofBody gap = [] := by
  have h := ofBody_append_gap hgap []
  rwa [List.append_nil, ofBody_nil] at h

/-- No character of a line ends it. -/
theorem newline_free {cs : List Char} (hline : '\n' ∉ cs) :
    ∀ c ∈ cs, (c == '\n') = false := by
  intro c hc
  rw [beq_eq_false_iff_ne]
  rintro rfl
  exact hline hc

private theorem ofLine_of_single {cs : List Char} (hcomment : Uncommented cs) (hcut : Uncut cs) :
    ofLine cs = [cs] := by
  have hend : cut 0 [] = [[]] := rfl
  have hwhole := hcomment [] (by simp)
  rw [List.append_nil] at hwhole
  rw [ofLine, hwhole]
  simpa [beforeComment] using hcut _ _ _ hend

/-- A comma that cuts ends a fragment like a line break. -/
theorem ofBody_append_comma {cs : List Char} (hline : '\n' ∉ cs) (hcomment : Uncommented cs)
    (hcut : Uncut cs) (more : List Char) :
    ofBody (cs ++ ',' :: more) = ofBody cs ++ ofBody more := by
  obtain ⟨line, lines, hlines⟩ := List.exists_cons_of_ne_nil (pieces_ne_nil (· == '\n') more)
  have hfree := newline_free hline
  have hcomma : pieces (· == '\n') (',' :: more) = (',' :: line) :: lines := by
    have hone : ∀ c ∈ [','], (c == '\n') = false := by simp
    exact pieces_append hone hlines
  have hwhole : ofLine (cs ++ ',' :: line) = cs :: ofLine line := by
    have hrest : cut 0 (',' :: beforeComment line) = [] :: cut 0 (beforeComment line) := by
      rw [cut, if_pos (by simp)]
    rw [ofLine, hcomment _ (by simp), beforeComment_cons (Or.inl (by decide)), hcut _ _ _ hrest,
      List.append_nil]
    rfl
  simp only [ofBody, pieces_append hfree hcomma, pieces_of_free hfree, hlines, List.flatMap_cons,
    List.flatMap_nil, hwhole, ofLine_of_single hcomment hcut, List.append_nil, List.cons_append,
    List.map_cons, List.map_nil, List.filter_cons, List.filter_nil]
  split
  · rfl
  · rfl

/-- A text without line breaks, comments or cuts is one fragment. -/
theorem ofBody_of_single {cs : List Char} (hline : '\n' ∉ cs) (hcomment : Uncommented cs)
    (hcut : Uncut cs) (hne : trim cs ≠ []) : ofBody cs = [trim cs] := by
  have hfree := newline_free hline
  simp [ofBody, pieces_of_free hfree, ofLine_of_single hcomment hcut, hne]

end Fragment

end AccessLayer
