import AccessLayer.Proofs.Schema.Header

namespace AccessLayer

namespace Block

open Text

/-- Blanks before a semicolon do not hide it. -/
theorem afterSemicolon_append {gap : List Char} (hgap : IsGap gap) (rest : List Char) :
    afterSemicolon (gap ++ ';' :: rest) = some rest := by
  have hdrop : (gap ++ ';' :: rest).dropWhile isBlank = ';' :: rest :=
    dropWhile_gap hgap (StartsSolid.cons (by decide) rest)
  simp only [afterSemicolon, hdrop]

/-- Nothing but blanks stands before a semicolon that is found. -/
theorem afterSemicolon_eq_some {cs rest : List Char} (h : afterSemicolon cs = some rest) :
    ∃ gap, IsGap gap ∧ cs = gap ++ ';' :: rest := by
  simp only [afterSemicolon] at h
  split at h
  · rename_i tail hopen
    obtain rfl := Option.some.inj h
    obtain ⟨gap, hgap, hsplit⟩ := exists_gap cs
    exact ⟨gap, hgap, by rw [hsplit, hopen]⟩
  · simp at h

/-- Whether a semicolon follows is settled by the first character that is no blank. -/
theorem afterSemicolon_append_of_solid {cs : List Char} (hsolid : ∃ c ∈ cs, isBlank c = false)
    (more : List Char) : afterSemicolon (cs ++ more) = (afterSemicolon cs).map (· ++ more) := by
  have hne : cs.dropWhile isBlank ≠ [] := by
    obtain ⟨c, hmem, hc⟩ := hsolid
    rw [ne_eq, List.dropWhile_eq_nil_iff]
    intro hall
    rw [hall c hmem] at hc
    cases hc
  simp only [afterSemicolon, dropWhile_append_of_solid hsolid]
  cases hcs : cs.dropWhile isBlank with
  | nil => exact absurd hcs hne
  | cons c tail =>
    simp only [List.cons_append]
    split
    · rename_i heq
      obtain ⟨rfl, rfl⟩ := List.cons.inj heq
      simp
    · rename_i hno
      split
      · rename_i heq
        obtain ⟨rfl, rfl⟩ := List.cons.inj heq
        exact absurd rfl (hno _)
      · rfl

private theorem afterSemicolon_eq_none {cs : List Char} {c : Char} {tail : List Char}
    (hdrop : cs.dropWhile isBlank = c :: tail) (hc : c ≠ ';') : afterSemicolon cs = none := by
  simp only [afterSemicolon, hdrop]
  split
  · rename_i heq
    exact absurd (List.cons.inj heq).1 hc
  · rfl

/-- A character is passed unless it is a parenthesis with which the section ends. -/
theorem closing?_cons {c : Char} {cs : List Char} (h : c = ')' → afterSemicolon cs = none) :
    closing? (c :: cs) = (closing? cs).map fun found => (c :: found.1, found.2) := by
  have hend : (if c = ')' then afterSemicolon cs else none) = none := by
    split
    · exact h ‹_›
    · rfl
  rw [closing?, hend]

/-- A parenthesis ends the section where only blanks part it from a semicolon. -/
theorem closing?_close {cs rest : List Char} (h : afterSemicolon cs = some rest) :
    closing? (')' :: cs) = some ([], rest) := by
  rw [closing?, if_pos rfl, h]

/-- Text without closing parentheses is passed whole. -/
theorem closing?_append {front : List Char} (h : ')' ∉ front) (cs : List Char) :
    closing? (front ++ cs) = (closing? cs).map fun found => (front ++ found.1, found.2) := by
  induction front with
  | nil => cases hcs : closing? cs <;> simp [hcs]
  | cons c front ih =>
    simp only [List.mem_cons, not_or] at h
    rw [List.cons_append, closing?_cons (fun hc => absurd hc.symm h.1), ih h.2, Option.map_map]
    rfl

/-- The end of a column section, read off the text before it. -/
theorem closing_eq_some {cs body rest : List Char} (h : closing? cs = some (body, rest)) :
    ∃ gap, IsGap gap ∧ cs = body ++ ')' :: (gap ++ ';' :: rest) := by
  induction cs generalizing body with
  | nil => simp [closing?] at h
  | cons c cs ih =>
    simp only [closing?] at h
    split at h
    · rename_i hfound
      split at hfound
      · rename_i hc
        obtain ⟨rfl, rfl⟩ := Prod.mk.inj (Option.some.inj h)
        obtain ⟨gap, hgap, rfl⟩ := afterSemicolon_eq_some hfound
        exact ⟨gap, hgap, by rw [hc]; rfl⟩
      · simp at hfound
    · obtain ⟨⟨inner, tail⟩, hinner, heq⟩ := Option.map_eq_some_iff.1 h
      obtain ⟨rfl, rfl⟩ := Prod.mk.inj heq
      obtain ⟨gap, hgap, rfl⟩ := ih hinner
      exact ⟨gap, hgap, rfl⟩

/-- Text behind a column section that has ended does not move its end. -/
theorem closing_append {cs body rest : List Char} (h : closing? cs = some (body, rest))
    (more : List Char) : closing? (cs ++ more) = some (body, rest ++ more) := by
  induction cs generalizing body with
  | nil => simp [closing?] at h
  | cons c cs ih =>
    have hsolid : ∃ d ∈ cs, isBlank d = false := by
      obtain ⟨gap, _, heq⟩ := closing_eq_some h
      have hmem : ';' ∈ cs := by
        cases body with
        | nil =>
          obtain ⟨_, rfl⟩ := List.cons.inj heq
          simp
        | cons b bs =>
          obtain ⟨_, rfl⟩ := List.cons.inj heq
          simp
      exact ⟨';', hmem, by decide⟩
    simp only [List.cons_append, closing?, afterSemicolon_append_of_solid hsolid] at h ⊢
    by_cases hc : c = ')'
    · simp only [hc, if_true] at h ⊢
      cases hfound : afterSemicolon cs with
      | some tail =>
        simp only [hfound] at h
        obtain ⟨rfl, rfl⟩ := Prod.mk.inj (Option.some.inj h)
        rfl
      | none =>
        simp only [hfound] at h
        obtain ⟨⟨inner, tail⟩, hinner, heq⟩ := Option.map_eq_some_iff.1 h
        obtain ⟨rfl, rfl⟩ := Prod.mk.inj heq
        simp [ih hinner]
    · simp only [hc, if_false] at h ⊢
      obtain ⟨⟨inner, tail⟩, hinner, heq⟩ := Option.map_eq_some_iff.1 h
      obtain ⟨rfl, rfl⟩ := Prod.mk.inj heq
      simp [ih hinner]

/-- A text in which some parenthesis stands before a semicolon has an end. -/
theorem closing_isSome (before : List Char) {gap : List Char} (hgap : IsGap gap)
    (rest : List Char) :
    ∃ body tail, closing? (before ++ ')' :: (gap ++ ';' :: rest)) = some (body, tail) := by
  induction before with
  | nil => exact ⟨[], rest, by simp [closing?, afterSemicolon_append hgap]⟩
  | cons c cs ih =>
    obtain ⟨body, tail, hclosing⟩ := ih
    simp only [List.cons_append, closing?, hclosing, Option.map_some]
    split
    · exact ⟨_, _, rfl⟩
    · exact ⟨_, _, rfl⟩

/-- A column section without semicolons is read whole. What stands behind the blanks is a character
    of the section or the parenthesis. -/
theorem closing_section {body gap : List Char} (hbody : ';' ∉ body) (hgap : IsGap gap)
    (rest : List Char) :
    closing? (body ++ ')' :: (gap ++ ';' :: rest)) = some (body, rest) := by
  induction body with
  | nil => simp [closing?, afterSemicolon_append hgap]
  | cons c cs ih =>
    have hcs : ';' ∉ cs := fun hmem => hbody (by simp [hmem])
    have hnone : afterSemicolon (cs ++ ')' :: (gap ++ ';' :: rest)) = none := by
      obtain ⟨lead, hlead, hsplit⟩ := exists_gap cs
      cases hdrop : cs.dropWhile isBlank with
      | nil =>
        rw [hdrop, List.append_nil] at hsplit
        rw [hsplit]
        exact afterSemicolon_eq_none (c := ')')
          (dropWhile_gap hlead (StartsSolid.cons (by decide) _)) (by decide)
      | cons d ds =>
        have hd : d ∈ cs := by rw [hsplit, hdrop]; simp
        have hsolid : StartsSolid (d :: ds) := hdrop ▸ startsSolid_dropWhile cs
        rw [hsplit, hdrop, List.append_assoc]
        refine afterSemicolon_eq_none (c := d)
          (dropWhile_gap hlead (hsolid.append (by simp) _)) ?_
        rintro rfl
        exact hcs hd
    simp only [List.cons_append, closing?, hnone, ite_self, ih hcs, Option.map_some]

end Block

end AccessLayer
