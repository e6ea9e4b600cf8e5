import AccessLayer.Proofs.Schema.Token

namespace AccessLayer

open Text Fragment

/-- What a section keeps as one fragment, whatever blanks follow it. -/
structure IsLine (line : List Char) : Prop where
  no_newline : '\n' ∉ line
  no_semicolon : ';' ∉ line
  uncommented : Uncommented line
  uncut : Uncut line
  starts_solid : StartsSolid line
  ends_solid : ∃ c, line.getLast? = some c ∧ isBlank c = false ∧ c ≠ ','

/-- A token is a line of its own. -/
theorem IsToken.isLine {word : List Char} (h : IsToken word) : IsLine word where
  no_newline hmem := by
    have hblank := h.solid _ hmem
    revert hblank
    decide
  no_semicolon := h.no_semicolon
  uncommented := h.uncommented
  uncut := h.uncut
  starts_solid := by
    cases word with
    | nil => exact absurd rfl h.ne_nil
    | cons c cs => exact StartsSolid.cons (h.solid c (by simp)) cs
  ends_solid := by
    have hlast := List.getLast?_eq_getLast_of_ne_nil h.ne_nil
    refine ⟨_, hlast, h.solid _ (List.getLast_mem h.ne_nil), ?_⟩
    intro heq
    exact h.no_comma_last (heq ▸ hlast)

/-- What parts the words of a line is a gap. -/
theorem IsInlineGap.isGap {gap : List Char} (h : IsInlineGap gap) : IsGap gap :=
  fun c hc => (h c hc).1

/-- No comment starts in a gap. -/
theorem IsInlineGap.uncommented {gap : List Char} (h : IsInlineGap gap) : Uncommented gap :=
  uncommented_of_not_mem (h.isGap.not_mem (by decide))

/-- No line is cut in a gap. -/
theorem IsInlineGap.uncut {gap : List Char} (h : IsInlineGap gap) : Uncut gap := by
  apply uncut_of_plain
  intro c hc
  have hne {d : Char} (hd : isBlank d = false) : c ≠ d := by
    rintro rfl
    exact h.isGap.not_mem hd hc
  exact ⟨hne (by decide), hne (by decide), hne (by decide)⟩

private theorem IsInlineGap.head?_ne {gap : List Char} (h : IsInlineGap gap) :
    gap.head? ≠ some '-' := by
  intro hhead
  exact h.isGap.not_mem (by decide) (List.mem_of_mem_head? hhead)

/-- A token in front of a line, with a gap between them, is on the line. -/
theorem IsToken.isLine_cons {word gap line : List Char} (h : IsToken word) (hne : gap ≠ [])
    (hgap : IsInlineGap gap) (hline : IsLine line) : IsLine (word ++ (gap ++ line)) := by
  have hword := h.isLine
  refine ⟨?_, ?_, ?_, ?_, ?_, ?_⟩
  · simp only [List.mem_append, not_or]
    exact ⟨hword.no_newline, fun hmem => (hgap _ hmem).2 rfl, hline.no_newline⟩
  · simp only [List.mem_append, not_or]
    exact ⟨h.no_semicolon, hgap.isGap.not_mem (by decide), hline.no_semicolon⟩
  · have htail : Uncommented (gap ++ line) := by
      intro more hmore
      rw [List.append_assoc, beforeComment_append_of_not_mem (hgap.isGap.not_mem (by decide)),
        hline.uncommented more hmore, List.append_assoc]
    have hhead : (gap ++ line).head? ≠ some '-' := by
      rw [List.head?_append_of_ne_nil _ hne]
      exact hgap.head?_ne
    exact h.uncommented.append htail hhead
  · exact h.uncut.append (hgap.uncut.append hline.uncut)
  · exact hword.starts_solid.append h.ne_nil _
  · obtain ⟨c, hlast, hc⟩ := hline.ends_solid
    refine ⟨c, ?_, hc⟩
    simp [List.getLast?_append, hlast]

/-- Tokens with gaps between them are one line. -/
theorem Spaced.isLine {words : List (List Char)} {line : List Char} (h : Spaced words line)
    (hwords : ∀ word ∈ words, IsToken word) : IsLine line := by
  induction h with
  | @last word => exact (hwords word (by simp)).isLine
  | @cons word gap words line hne hgap _ ih =>
    exact (hwords word (by simp)).isLine_cons hne hgap
      (ih fun other hmem => hwords other (by simp [hmem]))

/-- Such a line has these tokens for its words, whatever the gaps are. -/
theorem words_of_spaced {words : List (List Char)} {line : List Char} (h : Spaced words line)
    (hwords : ∀ word ∈ words, IsToken word) : Text.words line = words := by
  induction h with
  | @last word =>
    have hword := hwords word (by simp)
    exact solidPieces_of_free hword.ne_nil hword.solid
  | @cons word gap words line hne hgap _ ih =>
    have hword := hwords word (by simp)
    rw [Text.words, solidPieces_word_gap hword.ne_nil hword.solid hne hgap.isGap]
    exact congrArg _ (ih fun other hmem => hwords other (by simp [hmem]))

/-- A gap stays on its line, or it ends that line. -/
theorem IsGap.inline_or_newline {gap : List Char} (h : IsGap gap) :
    IsInlineGap gap ∨
      ∃ pre post, IsInlineGap pre ∧ IsGap post ∧ gap = pre ++ '\n' :: post := by
  induction gap with
  | nil => exact Or.inl (by simp [IsInlineGap])
  | cons c cs ih =>
    have hc : isBlank c = true := h c (by simp)
    have hcs : IsGap cs := fun d hd => h d (by simp [hd])
    by_cases hbreak : c = '\n'
    · exact Or.inr ⟨[], cs, by simp [IsInlineGap], hcs, by rw [hbreak]; rfl⟩
    · have hcons {pre : List Char} (hpre : IsInlineGap pre) : IsInlineGap (c :: pre) := by
        intro d hd
        rcases List.mem_cons.mp hd with rfl | hd
        · exact ⟨hc, hbreak⟩
        · exact hpre d hd
      rcases ih hcs with hinline | ⟨pre, post, hpre, hpost, rfl⟩
      · exact Or.inl (hcons hinline)
      · exact Or.inr ⟨c :: pre, post, hcons hpre, hpost, rfl⟩

/-- Blanks behind a line on the same line are trimmed. -/
theorem IsLine.ofBody_inline {line gap : List Char} (h : IsLine line) (hgap : IsInlineGap gap) :
    ofBody (line ++ gap) = [line] := by
  obtain ⟨c, hlast, hc, _⟩ := h.ends_solid
  have htrim : trim (line ++ gap) = line := trim_append_gap h.starts_solid hlast hc hgap.isGap
  have hne : line ≠ [] := by
    rintro rfl
    cases hlast
  rw [ofBody_of_single _ (h.uncommented.append hgap.uncommented hgap.head?_ne)
    (h.uncut.append hgap.uncut) (by rwa [htrim]), htrim]
  simp only [List.mem_append, not_or]
  exact ⟨h.no_newline, fun hmem => (hgap _ hmem).2 rfl⟩

private theorem IsLine.ofBody_inline_comma {line gap : List Char} (h : IsLine line)
    (hgap : IsInlineGap gap) (more : List Char) :
    ofBody (line ++ gap ++ ',' :: more) = line :: ofBody more := by
  rw [ofBody_append_comma _ (h.uncommented.append hgap.uncommented hgap.head?_ne)
    (h.uncut.append hgap.uncut), h.ofBody_inline hgap]
  · rfl
  · simp only [List.mem_append, not_or]
    exact ⟨h.no_newline, fun hmem => (hgap _ hmem).2 rfl⟩

private theorem IsLine.ofBody_inline_newline {line gap : List Char} (h : IsLine line)
    (hgap : IsInlineGap gap) (more : List Char) :
    ofBody (line ++ gap ++ '\n' :: more) = line :: ofBody more := by
  rw [ofBody_append_newline, h.ofBody_inline hgap]
  rfl

/-- Blanks behind the last line are dropped, line breaks included. -/
theorem IsLine.ofBody_gap {line gap : List Char} (h : IsLine line) (hgap : IsGap gap) :
    ofBody (line ++ gap) = [line] := by
  rcases IsGap.inline_or_newline hgap with hinline | ⟨pre, post, hpre, hpost, rfl⟩
  · exact h.ofBody_inline hinline
  · rw [← List.append_assoc, h.ofBody_inline_newline hpre, Fragment.ofBody_gap hpost]

/-- A separator ends a line, and all of its blanks, commas and line breaks are dropped. -/
theorem IsLine.ofBody_separator {line separator : List Char} (h : IsLine line)
    (hseparator : IsSeparator separator) (more : List Char) :
    ofBody (line ++ (separator ++ more)) = line :: ofBody more := by
  cases hseparator with
  | @comma before after hbefore hafter =>
    rcases IsGap.inline_or_newline hbefore with hinline | ⟨pre, post, hpre, hpost, rfl⟩
    · have hsplit : line ++ (before ++ ',' :: after ++ more) =
          line ++ before ++ ',' :: (after ++ more) := by simp
      rw [hsplit, h.ofBody_inline_comma hinline, ofBody_append_gap hafter]
    · have hsplit : line ++ (pre ++ '\n' :: post ++ ',' :: after ++ more) =
          line ++ pre ++ '\n' :: (post ++ ([] ++ ',' :: (after ++ more))) := by simp
      rw [hsplit, h.ofBody_inline_newline hpre, ofBody_append_gap hpost,
        ofBody_append_comma (by simp) Uncommented.nil (uncut_of_plain (by simp)), ofBody_nil,
        List.nil_append, ofBody_append_gap hafter]
  | @newline before after hbefore hafter =>
    rcases IsGap.inline_or_newline hbefore with hinline | ⟨pre, post, hpre, hpost, rfl⟩
    · have hsplit : line ++ (before ++ '\n' :: after ++ more) =
          line ++ before ++ '\n' :: (after ++ more) := by simp
      rw [hsplit, h.ofBody_inline_newline hinline, ofBody_append_gap hafter]
    · have hrest : IsGap (post ++ '\n' :: after) := by
        apply hpost.append
        intro c hc
        rcases List.mem_cons.mp hc with rfl | hc
        · decide
        · exact hafter c hc
      have hsplit : line ++ (pre ++ '\n' :: post ++ '\n' :: after ++ more) =
          line ++ pre ++ '\n' :: ((post ++ '\n' :: after) ++ more) := by simp
      rw [hsplit, h.ofBody_inline_newline hpre, ofBody_append_gap hrest]

/-- No block ends in a separator. -/
theorem IsSeparator.no_semicolon {separator : List Char} (h : IsSeparator separator) :
    ';' ∉ separator := by
  have hsolid : isBlank ';' = false := by decide
  cases h with
  | comma hbefore hafter => simp [hbefore.not_mem hsolid, hafter.not_mem hsolid]
  | newline hbefore hafter => simp [hbefore.not_mem hsolid, hafter.not_mem hsolid]

end AccessLayer
