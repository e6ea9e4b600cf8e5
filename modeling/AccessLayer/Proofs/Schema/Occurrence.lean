import AccessLayer.Proofs.Schema.Closing

namespace AccessLayer

namespace Block

open Text

/-- The blocks of a text in order, each with the text behind it. -/
def occurrences (cs : List Char) : List (Block × List Char) :=
  match _ : atFront? cs with
  | some (b, rest) => (b, rest) :: occurrences rest
  | none =>
    match cs with
    | [] => []
    | _ :: rest => occurrences rest
termination_by cs.length
decreasing_by
  · exact length_atFront ‹_›
  · simp

/-- The scan goes on behind a block that is found. -/
theorem occurrences_of_some {cs rest : List Char} {b : Block} (h : atFront? cs = some (b, rest)) :
    occurrences cs = (b, rest) :: occurrences rest := by
  rw [occurrences]
  split
  · rename_i b' rest' hfront
    obtain ⟨rfl, rfl⟩ := Prod.mk.inj (Option.some.inj (h.symm.trans hfront))
    rfl
  · rename_i hnone
    rw [h] at hnone
    cases hnone

/-- There is no block in an empty text. -/
theorem occurrences_nil : occurrences [] = [] := by
  rw [occurrences]
  rfl

/-- The scan goes on behind a character at which no block starts. -/
theorem occurrences_of_none {c : Char} {cs : List Char} (h : atFront? (c :: cs) = none) :
    occurrences (c :: cs) = occurrences cs := by
  rw [occurrences]
  split
  · rename_i hsome
    rw [h] at hsome
    cases hsome
  · rfl

/-- The blocks of a text are those that the scan comes across. -/
theorem all_eq_map_occurrences (cs : List Char) : all cs = (occurrences cs).map Prod.fst := by
  fun_induction all cs with
  | case1 cs b rest hfront ih => rw [occurrences_of_some hfront, List.map_cons, ih]
  | case2 hfront => rw [occurrences_nil, List.map_nil]
  | case3 c rest hfront ih => rw [occurrences_of_none hfront, ih]

/-- A block at the front is the first of the blocks. -/
theorem all_of_some {cs rest : List Char} {b : Block} (h : atFront? cs = some (b, rest)) :
    all cs = b :: all rest := by
  simp only [all_eq_map_occurrences, occurrences_of_some h, List.map_cons]

/-- A character at which no block starts makes no difference. -/
theorem all_of_none {c : Char} {cs : List Char} (h : atFront? (c :: cs) = none) :
    all (c :: cs) = all cs := by
  simp only [all_eq_map_occurrences, occurrences_of_none h]

/-- No block starts without a header. -/
theorem atFront?_eq_none_of_header {cs : List Char} (h : header? cs = none) :
    atFront? cs = none := by
  rw [atFront?, h]
  rfl

/-- A block at the front of a text, read off its header and the section behind it. -/
theorem exists_header_closing {cs rest : List Char} {b : Block}
    (h : atFront? cs = some (b, rest)) :
    ∃ (head : Header) (opened : List Char), head.name = b.name ∧ cs = head.text ++ opened ∧
      closing? opened = some (b.body, rest) := by
  simp only [atFront?, Option.bind_eq_bind, Option.bind_eq_some_iff] at h
  obtain ⟨⟨name, opened⟩, h1, ⟨body, tail⟩, h2, h3⟩ := h
  obtain ⟨rfl, rfl⟩ := Prod.mk.inj (Option.some.inj h3)
  obtain ⟨head, rfl, rfl⟩ := exists_header h1
  exact ⟨head, opened, rfl, rfl, h2⟩

/-- A block at the front of a text, read off the characters it is made of. -/
theorem atFront_eq_some {cs rest : List Char} {b : Block} (h : atFront? cs = some (b, rest)) :
    ∃ (head : Header) (gap : List Char), head.name = b.name ∧ IsGap gap ∧
      cs = head.text ++ (b.body ++ ')' :: (gap ++ ';' :: rest)) := by
  obtain ⟨head, opened, hname, rfl, hclosing⟩ := exists_header_closing h
  obtain ⟨gap, hgap, rfl⟩ := closing_eq_some hclosing
  exact ⟨head, gap, hname, hgap, rfl⟩

/-- The name of a block is a name, wherever the block stands. -/
theorem isName_of_mem_all {cs : List Char} {b : Block} (h : b ∈ all cs) : IsName b.name := by
  fun_induction all cs with
  | case1 cs found rest hfront ih =>
    rcases List.mem_cons.mp h with rfl | hrest
    · obtain ⟨head, _, hname, _⟩ := atFront_eq_some hfront
      rw [← hname]
      exact head.name_isName
    · exact ih hrest
  | case2 hfront => cases h
  | case3 c rest hfront ih => exact ih h

/-- A header and a section that is closed behind it are a block, whatever follows. -/
theorem atFront_of_closing (head : Header) {opened body rest : List Char}
    (h : closing? opened = some (body, rest)) :
    atFront? (head.text ++ opened) = some (⟨head.name, body⟩, rest) := by
  simp only [atFront?, header_append, Option.bind_eq_bind, Option.bind_some, h]

/-- A text in which no column section could end holds no block. -/
theorem all_eq_nil_of_closing {cs : List Char} (h : closing? cs = none) : all cs = [] := by
  fun_induction all cs with
  | case1 cs b rest hfront ih =>
    obtain ⟨head, gap, -, hgap, rfl⟩ := atFront_eq_some hfront
    obtain ⟨body, tail, hsome⟩ := closing_isSome (head.text ++ b.body) hgap rest
    rw [List.append_assoc, h] at hsome
    cases hsome
  | case2 hfront => rfl
  | case3 c cs hfront ih =>
    apply ih
    rw [closing?] at h
    split at h
    · cases h
    · exact Option.map_eq_none_iff.mp h

/-- A block at the front is found there also when text is appended. -/
theorem atFront_append {cs rest : List Char} {b : Block} (h : atFront? cs = some (b, rest))
    (more : List Char) : atFront? (cs ++ more) = some (b, rest ++ more) := by
  obtain ⟨head, opened, hname, rfl, hclosing⟩ := exists_header_closing h
  have hblock := atFront_of_closing head (closing_append hclosing more)
  rw [hname] at hblock
  rw [List.append_assoc, hblock]

/-- A block does not depend on the text behind it: cut off there, it is still read. -/
theorem exists_block_text {cs rest : List Char} {b : Block} (h : atFront? cs = some (b, rest)) :
    ∃ text, cs = text ++ rest ∧ atFront? text = some (b, []) := by
  obtain ⟨head, gap, hname, hgap, hcs⟩ := atFront_eq_some h
  obtain ⟨body, tail, hclosing⟩ := closing_isSome b.body hgap []
  have hcut := atFront_of_closing head hclosing
  refine ⟨head.text ++ (b.body ++ ')' :: (gap ++ [';'])), by simp [hcs], ?_⟩
  have hsame := atFront_append hcut rest
  have hwhole : head.text ++ (b.body ++ ')' :: (gap ++ [';'])) ++ rest = cs := by simp [hcs]
  rw [hwhole, h] at hsame
  obtain ⟨hb, hrest⟩ := Prod.mk.inj (Option.some.inj hsame)
  have htail : tail = [] := by
    have hlength := congrArg List.length hrest
    rw [List.length_append] at hlength
    exact List.eq_nil_of_length_eq_zero (by omega)
  rw [hcut, ← hb, htail]

/-- The last block of the text ends where the text ends. -/
def EndsWithBlock (cs : List Char) : Prop := ∃ b, (occurrences cs).getLast? = some (b, [])

/-- Whether a text ends with a block is settled behind its first one. -/
theorem endsWithBlock_of_some {cs rest : List Char} {b : Block}
    (h : atFront? cs = some (b, rest)) :
    EndsWithBlock cs ↔ rest = [] ∨ EndsWithBlock rest := by
  unfold EndsWithBlock
  rw [occurrences_of_some h]
  cases hrest : occurrences rest with
  | nil =>
    constructor
    · rintro ⟨b', hlast⟩
      exact Or.inl (Prod.mk.inj (Option.some.inj hlast)).2
    · rintro (rfl | ⟨b', hlast⟩)
      · exact ⟨b, rfl⟩
      · cases hlast
  | cons o os =>
    rw [List.getLast?_cons_cons]
    constructor
    · exact Or.inr
    · rintro (rfl | hlast)
      · rw [occurrences_nil] at hrest
        cases hrest
      · exact hlast

/-- Whether a text ends with a block does not depend on a character at which none starts. -/
theorem endsWithBlock_of_none {c : Char} {cs : List Char} (h : atFront? (c :: cs) = none) :
    EndsWithBlock (c :: cs) ↔ EndsWithBlock cs := by
  unfold EndsWithBlock
  rw [occurrences_of_none h]

/-- The empty text ends with no block. -/
theorem not_endsWithBlock_nil : ¬ EndsWithBlock [] := by
  rintro ⟨b, hlast⟩
  rw [occurrences_nil] at hlast
  cases hlast

/-- A text that ends with a block ends with a closing parenthesis and a semicolon, blanks aside. -/
theorem EndsWithBlock.exists_close {cs : List Char} (h : EndsWithBlock cs) :
    ∃ before gap, IsGap gap ∧ cs = before ++ ')' :: (gap ++ [';']) := by
  fun_induction occurrences cs with
  | case1 cs b rest hfront ih =>
    rcases (endsWithBlock_of_some hfront).mp h with rfl | hrest
    · obtain ⟨head, gap, _, hgap, rfl⟩ := atFront_eq_some hfront
      exact ⟨head.text ++ b.body, gap, hgap, by simp⟩
    · obtain ⟨before, gap, hgap, rfl⟩ := ih hrest
      obtain ⟨text, rfl, _⟩ := exists_block_text hfront
      exact ⟨text ++ before, gap, hgap, by simp⟩
  | case2 hfront => exact absurd h not_endsWithBlock_nil
  | case3 c rest hfront ih =>
    obtain ⟨before, gap, hgap, rfl⟩ := ih ((endsWithBlock_of_none hfront).mp h)
    exact ⟨c :: before, gap, hgap, rfl⟩

/-- Where no block starts in a text that ends with a block, none starts when text is appended: the
    header would have to reach across the seam and hold the semicolon before it. A header that would
    be completed ends before the last semicolon of the text, and in fact before its parenthesis. -/
theorem atFront_append_eq_none {cs : List Char} (hends : EndsWithBlock cs)
    (hnone : atFront? cs = none) (more : List Char) : atFront? (cs ++ more) = none := by
  by_contra hsome
  obtain ⟨⟨b, rest⟩, hfront⟩ := Option.ne_none_iff_exists'.mp hsome
  obtain ⟨head, gap', _, _, hcs⟩ := atFront_eq_some hfront
  obtain ⟨before, gap, hgap, rfl⟩ := hends.exists_close
  rcases List.append_eq_append_iff.mp hcs with ⟨seam, hhead, -⟩ | ⟨opened, hopened, -⟩
  · have hmem : ';' ∈ head.text := by rw [hhead]; simp
    exact head.semicolon_not_mem hmem
  · rcases List.append_eq_append_iff.mp hopened with ⟨seam, hhead, hclose⟩ | ⟨inside, rfl, -⟩
    · cases seam with
      | nil =>
        obtain rfl : before = head.text := by simpa using hhead.symm
        obtain ⟨body, tail, hclosing⟩ := closing_isSome [] hgap []
        rw [List.nil_append] at hclosing
        rw [atFront_of_closing head hclosing] at hnone
        cases hnone
      | cons c seam =>
        obtain ⟨rfl, -⟩ := List.cons.inj hclose
        exact head.close_not_mem (by rw [hhead]; simp)
    · obtain ⟨body, tail, hclosing⟩ := closing_isSome inside hgap []
      rw [List.append_assoc, atFront_of_closing head hclosing] at hnone
      cases hnone

/-- Behind a text that is empty or ends with a block, the scan starts afresh: it finds what it finds
    in either part, in the same order. -/
theorem occurrences_append {cs : List Char} (h : cs = [] ∨ EndsWithBlock cs) (more : List Char) :
    occurrences (cs ++ more) =
      (occurrences cs).map (fun o => (o.1, o.2 ++ more)) ++ occurrences more := by
  fun_induction occurrences cs with
  | case1 cs b rest hfront ih =>
    have hrest : rest = [] ∨ EndsWithBlock rest := by
      rcases h with rfl | hends
      · have hlength := length_atFront hfront
        simp at hlength
      · exact (endsWithBlock_of_some hfront).mp hends
    rw [occurrences_of_some (atFront_append hfront more), ih hrest]
    rfl
  | case2 hfront => rfl
  | case3 c rest hfront ih =>
    have hends : EndsWithBlock (c :: rest) := h.resolve_left (by simp)
    have hnone : atFront? (c :: (rest ++ more)) = none := atFront_append_eq_none hends hfront more
    rw [List.cons_append, occurrences_of_none hnone,
      ih (Or.inr ((endsWithBlock_of_none hfront).mp hends))]

/-- The blocks of two texts are those of the first and then those of the second, if the first is
    empty or ends with a block. -/
theorem all_append {cs : List Char} (h : cs = [] ∨ EndsWithBlock cs) (more : List Char) :
    all (cs ++ more) = all cs ++ all more := by
  simp only [all_eq_map_occurrences, occurrences_append h, List.map_append, List.map_map]
  rfl

end Block

end AccessLayer
