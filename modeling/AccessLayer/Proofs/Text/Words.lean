import AccessLayer.Proofs.Text.Blank

namespace AccessLayer.Text

variable {sep : Char → Bool}

/-- Cutting at separators is the library's splitting. -/
theorem pieces_eq_splitOnP (sep : Char → Bool) (cs : List Char) :
    pieces sep cs = cs.splitOnP sep := by
  induction cs with
  | nil => rfl
  | cons c cs ih =>
    rw [pieces, List.splitOnP_cons_eq_if_modifyHead, ← ih]
    split
    · rfl
    · cases hcs : pieces sep cs with
      | nil => exact absurd hcs (pieces_ne_nil sep cs)
      | cons p ps => rfl

/-- A text without separators is one piece. -/
theorem pieces_of_free {cs : List Char} (hcs : ∀ c ∈ cs, sep c = false) : pieces sep cs = [cs] := by
  rw [pieces_eq_splitOnP, List.splitOnP_eq_singleton hcs]

/-- A separator cuts a text into what is cut from either side of it. -/
theorem pieces_append_separator {c : Char} (hc : sep c = true) (cs more : List Char) :
    pieces sep (cs ++ c :: more) = pieces sep cs ++ pieces sep more := by
  simp only [pieces_eq_splitOnP]
  exact List.splitOnP_append_cons cs more hc

private theorem pieces_append_cons {cs : List Char} {c : Char} (hcs : ∀ d ∈ cs, sep d = false)
    (hc : sep c = true) (more : List Char) :
    pieces sep (cs ++ c :: more) = cs :: pieces sep more := by
  rw [pieces_append_separator hc, pieces_of_free hcs, List.singleton_append]

/-- What holds no separator is prepended to the first piece of the rest. -/
theorem pieces_append {cs more p : List Char} {ps : List (List Char)}
    (hcs : ∀ c ∈ cs, sep c = false) (hmore : pieces sep more = p :: ps) :
    pieces sep (cs ++ more) = (cs ++ p) :: ps := by
  induction cs with
  | nil => exact hmore
  | cons c cs ih =>
    have hc : sep c = false := hcs c (by simp)
    have hrest := ih fun d hd => hcs d (by simp [hd])
    simp [pieces, hc, hrest, extendFirst]

/-- The first of the parts starts the text, and the others stand somewhere in it. -/
def AreParts (cs : List Char) : List (List Char) → Prop
  | [] => False
  | p :: ps => p <+: cs ∧ ∀ q ∈ ps, q <:+: cs

/-- A part of a text stands in it. -/
theorem AreParts.within {cs p : List Char} {ps : List (List Char)} (h : AreParts cs ps)
    (hp : p ∈ ps) : p <:+: cs := by
  cases ps with
  | nil => exact h.elim
  | cons q qs =>
    rcases List.mem_cons.mp hp with rfl | hp
    · exact h.1.isInfix
    · exact h.2 p hp

/-- A new part may begin at any character. -/
theorem AreParts.start {cs : List Char} {ps : List (List Char)} (h : AreParts cs ps) (c : Char) :
    AreParts (c :: cs) ([] :: ps) :=
  ⟨List.nil_prefix, fun _ hp => List.infix_cons (h.within hp)⟩

/-- The first part may grow by a character. -/
theorem AreParts.extendFirst {cs : List Char} {ps : List (List Char)} (h : AreParts cs ps)
    (c : Char) : AreParts (c :: cs) (extendFirst c ps) := by
  cases ps with
  | nil => exact h.elim
  | cons p ps =>
    exact ⟨(List.prefix_cons_inj c).mpr h.1, fun q hq => List.infix_cons (h.2 q hq)⟩

/-- The pieces of a text are parts of it. -/
theorem areParts_pieces (sep : Char → Bool) (cs : List Char) : AreParts cs (pieces sep cs) := by
  induction cs with
  | nil => exact ⟨List.prefix_rfl, nofun⟩
  | cons c cs ih =>
    rw [pieces]
    split
    · exact ih.start c
    · exact ih.extendFirst c

/-- A piece is made of characters of the text, none of which separates. -/
theorem mem_of_mem_pieces {cs p : List Char} {c : Char} (hp : p ∈ pieces sep cs) (hc : c ∈ p) :
    c ∈ cs ∧ sep c = false := by
  induction cs generalizing p with
  | nil =>
    obtain rfl : p = [] := by simpa [pieces] using hp
    cases hc
  | cons d cs ih =>
    simp only [pieces] at hp
    split at hp
    · rcases List.mem_cons.mp hp with rfl | hrest
      · cases hc
      · exact ⟨List.mem_cons_of_mem d (ih hrest hc).1, (ih hrest hc).2⟩
    · rename_i hd
      obtain ⟨first, rest, hpieces⟩ := List.exists_cons_of_ne_nil (pieces_ne_nil sep cs)
      rw [hpieces, extendFirst] at hp
      rw [hpieces] at ih
      rcases List.mem_cons.mp hp with rfl | hrest
      · rcases List.mem_cons.mp hc with rfl | hfirst
        · exact ⟨List.mem_cons_self, by simpa using hd⟩
        · have hmem := ih List.mem_cons_self hfirst
          exact ⟨List.mem_cons_of_mem d hmem.1, hmem.2⟩
      · have hmem := ih (List.mem_cons_of_mem first hrest) hc
        exact ⟨List.mem_cons_of_mem d hmem.1, hmem.2⟩

/-- Nothing but separators is lost. -/
theorem exists_mem_pieces_of_mem {cs : List Char} {c : Char} (hc : c ∈ cs) (hsep : sep c = false) :
    ∃ p ∈ pieces sep cs, c ∈ p := by
  induction cs with
  | nil => cases hc
  | cons d cs ih =>
    rw [pieces]
    rcases List.mem_cons.mp hc with rfl | hrest
    · rw [hsep]
      obtain ⟨first, rest, hpieces⟩ := List.exists_cons_of_ne_nil (pieces_ne_nil sep cs)
      exact ⟨c :: first, by simp [hpieces, extendFirst], by simp⟩
    · obtain ⟨p, hp, hmem⟩ := ih hrest
      split
      · exact ⟨p, by simp [hp], hmem⟩
      · obtain ⟨first, rest, hpieces⟩ := List.exists_cons_of_ne_nil (pieces_ne_nil sep cs)
        rw [hpieces, extendFirst]
        rw [hpieces] at hp
        rcases List.mem_cons.mp hp with rfl | hlater
        · exact ⟨d :: p, by simp, by simp [hmem]⟩
        · exact ⟨p, by simp [hlater], hmem⟩

/-- The pieces put together are the text without its separators. -/
theorem flatten_pieces (sep : Char → Bool) (cs : List Char) :
    (pieces sep cs).flatten = cs.filter (!sep ·) := by
  induction cs with
  | nil => rfl
  | cons c cs ih =>
    rw [pieces]
    split
    · rename_i hc
      rw [List.filter_cons_of_neg (by simp [hc]), ← ih]
      rfl
    · rename_i hc
      obtain ⟨p, ps, hpieces⟩ := List.exists_cons_of_ne_nil (pieces_ne_nil sep cs)
      rw [List.filter_cons_of_pos (by simp [hc]), ← ih, hpieces]
      rfl

/-- What is joined by a character that stands in none of the parts is there when it is taken out. -/
theorem filter_intercalate {c : Char} {ps : List (List Char)} (h : ∀ p ∈ ps, c ∉ p) :
    ([c].intercalate ps).filter (· != c) = ps.flatten := by
  by_cases hps : ps = []
  · subst hps
    rfl
  · have hpieces : pieces (· == c) ([c].intercalate ps) = ps := by
      rw [pieces_eq_splitOnP, ← List.splitOn_eq_splitOnP, List.splitOn_intercalate c h hps]
    have hflatten := flatten_pieces (· == c) ([c].intercalate ps)
    rw [hpieces] at hflatten
    exact hflatten.symm

/-- The pieces between the occurrences of one character tell the text. -/
theorem pieces_beq_injective (c : Char) : Function.Injective (pieces (· == c)) := by
  intro cs ds h
  have hsplit : cs.splitOn c = ds.splitOn c := by
    simpa only [List.splitOn_eq_splitOnP, pieces_eq_splitOnP] using h
  have hjoined := @List.intercalate_splitOn _ cs _ _ c
  rw [hsplit, List.intercalate_splitOn] at hjoined
  exact hjoined.symm

/-- Separators at the end of a text leave empty pieces behind. -/
theorem pieces_append_separators {tail : List Char} (htail : ∀ c ∈ tail, sep c = true)
    (cs : List Char) :
    pieces sep (cs ++ tail) = pieces sep cs ++ List.replicate tail.length [] := by
  induction tail generalizing cs with
  | nil => simp
  | cons c tail ih =>
    have hrest := ih (fun d hd => htail d (by simp [hd])) []
    rw [List.nil_append] at hrest
    rw [pieces_append_separator (htail c (by simp)), hrest]
    rfl

/-- Separators in front leave nothing behind. -/
theorem solidPieces_append_separators {gap : List Char} (hgap : ∀ c ∈ gap, sep c = true)
    (more : List Char) : solidPieces sep (gap ++ more) = solidPieces sep more := by
  induction gap with
  | nil => rfl
  | cons c cs ih =>
    have hc : sep c = true := hgap c (by simp)
    rw [← ih fun d hd => hgap d (by simp [hd])]
    simp [solidPieces, pieces, hc]

/-- A word ends where a separator stands. -/
theorem solidPieces_word {word : List Char} {c : Char} (hne : word ≠ [])
    (hword : ∀ d ∈ word, sep d = false) (hc : sep c = true) (more : List Char) :
    solidPieces sep (word ++ c :: more) = word :: solidPieces sep more := by
  rw [solidPieces, pieces_append_cons hword hc, List.filter_cons_of_pos (by simpa using hne)]
  rfl

/-- A text without separators is a word, if it is not empty. -/
theorem solidPieces_of_free {word : List Char} (hne : word ≠ [])
    (hword : ∀ d ∈ word, sep d = false) : solidPieces sep word = [word] := by
  rw [solidPieces, pieces_of_free hword, List.filter_cons_of_pos (by simpa using hne)]
  rfl

/-- A word ends where a separator or the text ends it. -/
theorem solidPieces_append {word rest : List Char} (hne : word ≠ [])
    (hword : ∀ c ∈ word, sep c = false) (hrest : ∀ c ∈ rest.head?, sep c = true) :
    solidPieces sep (word ++ rest) = word :: solidPieces sep rest := by
  cases rest with
  | nil =>
    rw [List.append_nil, solidPieces_of_free hne hword]
    rfl
  | cons c rest =>
    have hc : sep c = true := hrest c rfl
    have hgap : solidPieces sep ([c] ++ rest) = solidPieces sep rest :=
      solidPieces_append_separators (by simpa using hc) rest
    rw [solidPieces_word hne hword hc, ← hgap, List.singleton_append]

/-- The first of the pieces that are not empty stands between separators, or at an end. -/
theorem solidPieces_eq_cons_iff {cs word : List Char} {more : List (List Char)} :
    solidPieces sep cs = word :: more ↔
      ∃ gap rest, cs = gap ++ (word ++ rest) ∧ (∀ c ∈ gap, sep c = true) ∧ word ≠ [] ∧
        (∀ c ∈ word, sep c = false) ∧ (∀ c ∈ rest.head?, sep c = true) ∧
        solidPieces sep rest = more := by
  constructor
  · intro h
    have hgap : ∀ c ∈ cs.takeWhile sep, sep c = true := fun c hc => List.mem_takeWhile_imp hc
    have hcs : cs.takeWhile sep ++ cs.dropWhile sep = cs := List.takeWhile_append_dropWhile
    rw [← hcs, solidPieces_append_separators hgap] at h
    have hfree : ∀ c ∈ (cs.dropWhile sep).takeWhile (!sep ·), sep c = false := by
      intro c hc
      simpa using List.mem_takeWhile_imp hc
    have hbehind : ∀ c ∈ ((cs.dropWhile sep).dropWhile (!sep ·)).head?, sep c = true := by
      intro c hc
      by_contra hsep
      have hhead := List.head?_dropWhile_not (fun d => !sep d) (cs.dropWhile sep)
      rw [Option.mem_def.mp hc] at hhead
      simp [hsep] at hhead
    have hsplit : (cs.dropWhile sep).takeWhile (!sep ·) ++ (cs.dropWhile sep).dropWhile (!sep ·) =
        cs.dropWhile sep := List.takeWhile_append_dropWhile
    have hne : (cs.dropWhile sep).takeWhile (!sep ·) ≠ [] := by
      intro hnil
      cases htail : cs.dropWhile sep with
      | nil =>
        rw [htail] at h
        cases h
      | cons d tail =>
        have hd := List.head?_dropWhile_not sep cs
        rw [htail] at hd hnil
        have hfirst : sep d = false := by simpa using hd
        simp [hfirst] at hnil
    rw [← hsplit, solidPieces_append hne hfree hbehind] at h
    obtain ⟨hword, hmore⟩ := List.cons.inj h
    rw [hword] at hsplit hne hfree
    exact ⟨_, _, by rw [hsplit, hcs], hgap, hne, hfree, hbehind, hmore⟩
  · rintro ⟨gap, rest, rfl, hgap, hne, hfree, hrest, rfl⟩
    rw [solidPieces_append_separators hgap, solidPieces_append hne hfree hrest]

/-- A word ends where the first of the separators behind it stands. -/
theorem solidPieces_word_gap {word gap : List Char} (hne : word ≠ [])
    (hword : ∀ d ∈ word, sep d = false) (hgapNe : gap ≠ []) (hgap : ∀ d ∈ gap, sep d = true)
    (more : List Char) :
    solidPieces sep (word ++ (gap ++ more)) = word :: solidPieces sep more := by
  cases gap with
  | nil => exact absurd rfl hgapNe
  | cons c cs =>
    rw [List.cons_append, solidPieces_word hne hword (hgap c (by simp)),
      solidPieces_append_separators fun d hd => hgap d (by simp [hd])]

/-- What is accepted is dropped from the end, however long it is. -/
theorem dropEnd_append {p : Char → Bool} {tail : List Char} (htail : ∀ c ∈ tail, p c = true)
    (cs : List Char) : dropEnd p (cs ++ tail) = dropEnd p cs := by
  rw [dropEnd, List.reverse_append, List.dropWhile_append_of_pos, dropEnd]
  intro c hc
  exact htail c (List.mem_reverse.mp hc)

/-- Nothing but what is accepted is dropped from the end. -/
theorem exists_dropped_end (p : Char → Bool) (cs : List Char) :
    ∃ tail, (∀ c ∈ tail, p c = true) ∧ cs = dropEnd p cs ++ tail := by
  refine ⟨(cs.reverse.takeWhile p).reverse, ?_, ?_⟩
  · intro c hc
    exact List.mem_takeWhile_imp (List.mem_reverse.mp hc)
  · rw [dropEnd, ← List.reverse_append, List.takeWhile_append_dropWhile, List.reverse_reverse]

/-- Nothing is dropped from a text whose last character is not accepted. -/
theorem dropEnd_of_getLast? {p : Char → Bool} {cs : List Char} {c : Char}
    (hlast : cs.getLast? = some c) (hc : p c = false) : dropEnd p cs = cs := by
  obtain ⟨init, rfl⟩ := List.getLast?_eq_some_iff.mp hlast
  simp [dropEnd, hc]

/-- Blanks in front are trimmed. -/
theorem trim_cons_blank {c : Char} (hc : isBlank c = true) (cs : List Char) :
    trim (c :: cs) = trim cs := by
  simp [trim, hc]

/-- Blanks behind a text that starts and ends with none are all that trimming drops. -/
theorem trim_append_gap {cs gap : List Char} {c : Char} (hstart : StartsSolid cs)
    (hlast : cs.getLast? = some c) (hc : isBlank c = false) (hgap : IsGap gap) :
    trim (cs ++ gap) = cs := by
  have hne : cs ≠ [] := by
    rintro rfl
    cases hlast
  rw [trim, hstart.append hne gap, dropEnd_append hgap, dropEnd_of_getLast? hlast hc]

/-- Nothing is trimmed from a text without blanks. -/
theorem trim_of_solid {word : List Char} (hne : word ≠ [])
    (hsolid : ∀ c ∈ word, isBlank c = false) : trim word = word := by
  have hlast := List.getLast?_eq_getLast_of_ne_nil hne
  have hstart : StartsSolid word := by
    cases word with
    | nil => exact absurd rfl hne
    | cons c cs => exact StartsSolid.cons (hsolid c (by simp)) cs
  have h := trim_append_gap hstart hlast (hsolid _ (List.getLast_mem hne)) IsGap.nil
  rwa [List.append_nil] at h

end AccessLayer.Text
