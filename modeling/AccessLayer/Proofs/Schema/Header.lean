import AccessLayer.Proofs.Text.Blank
import AccessLayer.Schema.Block

namespace AccessLayer

namespace Block

open Text

/-- A way to write what precedes a column section: the keywords in any case, the name of the table,
    and the gaps between them. -/
structure Header where
  create : List Char
  createGap : List Char
  table : List Char
  tableGap : List Char
  name : List Char
  nameGap : List Char
  create_upper : upperAscii create = "CREATE".toList
  createGap_ne_nil : createGap ≠ []
  createGap_isGap : IsGap createGap
  table_upper : upperAscii table = "TABLE".toList
  tableGap_ne_nil : tableGap ≠ []
  tableGap_isGap : IsGap tableGap
  name_isName : IsName name
  nameGap_isGap : IsGap nameGap

/-- The header as it stands in a schema, its opening parenthesis included. -/
def Header.text (h : Header) : List Char :=
  h.create ++ (h.createGap ++ (h.table ++ (h.tableGap ++ (h.name ++ (h.nameGap ++ ['('])))))

/-- A word is read in any case. -/
theorem afterWord_append {w ws : List Char} (h : upperAscii w = ws) (rest : List Char) :
    afterWord ws (w ++ rest) = some rest := by
  subst h
  induction w with
  | nil => rfl
  | cons c cs ih =>
    simp only [upperAscii, List.map_cons, List.cons_append, afterWord, if_true]
    exact ih

/-- What stands before the rest is the word, in some case. -/
theorem afterWord_eq_some {ws cs rest : List Char} (h : afterWord ws cs = some rest) :
    ∃ w, upperAscii w = ws ∧ cs = w ++ rest := by
  induction ws generalizing cs with
  | nil =>
    obtain rfl := Option.some.inj h
    exact ⟨[], rfl, rfl⟩
  | cons u us ih =>
    cases cs with
    | nil => simp [afterWord] at h
    | cons c cs =>
      simp only [afterWord] at h
      split at h
      · rename_i hc
        obtain ⟨w, hw, rfl⟩ := ih h
        exact ⟨c :: w, by simpa [upperAscii, hc] using hw, rfl⟩
      · simp at h

/-- Blanks are read to their end. -/
theorem afterBlanks_append {gap rest : List Char} (hne : gap ≠ []) (hgap : IsGap gap)
    (hrest : StartsSolid rest) : afterBlanks (gap ++ rest) = some rest := by
  cases gap with
  | nil => exact absurd rfl hne
  | cons c cs =>
    have hc : isBlank c = true := hgap c (by simp)
    have hcs : IsGap cs := fun d hd => hgap d (by simp [hd])
    simp only [List.cons_append, afterBlanks, hc, if_true]
    rw [dropWhile_gap hcs hrest]

/-- What stands before the rest are blanks, of which there is one at least. -/
theorem afterBlanks_eq_some {cs rest : List Char} (h : afterBlanks cs = some rest) :
    ∃ gap, gap ≠ [] ∧ IsGap gap ∧ cs = gap ++ rest := by
  cases cs with
  | nil => simp [afterBlanks] at h
  | cons c cs =>
    simp only [afterBlanks] at h
    split at h
    · rename_i hc
      obtain rfl := Option.some.inj h
      refine ⟨c :: cs.takeWhile isBlank, by simp, ?_, by simp⟩
      intro d hd
      rcases List.mem_cons.mp hd with rfl | hd
      · exact hc
      · exact isGap_takeWhile cs d hd
    · simp at h

private theorem keyword_startsSolid {w ws : List Char} (h : upperAscii w = ws) (hne : ws ≠ [])
    (hws : ws.any isBlank = false) (rest : List Char) : StartsSolid (w ++ rest) := by
  have hsolid := not_blank_of_upperAscii h fun c hc => by simpa using List.any_eq_false.mp hws c hc
  cases w with
  | nil => exact absurd h.symm hne
  | cons c cs => exact StartsSolid.cons (hsolid c (by simp)) _

private theorem gap_open_not_word {gap : List Char} (hgap : IsGap gap) (rest : List Char) :
    (gap ++ '(' :: rest).takeWhile isWord = [] ∧
      (gap ++ '(' :: rest).dropWhile isWord = gap ++ '(' :: rest := by
  have hopen : isWord '(' = false := by decide
  cases gap with
  | nil => simp [hopen]
  | cons c cs =>
    have hc := isWord_eq_false_of_isBlank (hgap c (by simp))
    simp [hc]

/-- Reading a header gives its name and what stands behind it. -/
theorem header_append (h : Header) (rest : List Char) :
    header? (h.text ++ rest) = some (h.name, rest) := by
  have htable := keyword_startsSolid h.table_upper (by decide) (by decide)
    (h.tableGap ++ (h.name ++ (h.nameGap ++ '(' :: rest)))
  obtain ⟨htake, hdrop⟩ := gap_open_not_word h.nameGap_isGap rest
  have hopened : (h.nameGap ++ '(' :: rest).dropWhile isBlank = '(' :: rest :=
    dropWhile_gap h.nameGap_isGap (StartsSolid.cons (by decide) rest)
  simp only [Header.text, List.append_assoc, List.singleton_append, header?]
  rw [afterWord_append h.create_upper]
  simp only [Option.bind_eq_bind, Option.bind_some]
  rw [afterBlanks_append h.createGap_ne_nil h.createGap_isGap htable, Option.bind_some,
    afterWord_append h.table_upper, Option.bind_some,
    afterBlanks_append h.tableGap_ne_nil h.tableGap_isGap (h.name_isName.startsSolid _),
    Option.bind_some, takeWhile_name h.name_isName htake, dropWhile_name h.name_isName hdrop,
    hopened]
  simp [h.name_isName.1]

/-- Conversely, what is read as a header is the text of one. -/
theorem exists_header {cs name rest : List Char} (hread : header? cs = some (name, rest)) :
    ∃ h : Header, h.name = name ∧ cs = h.text ++ rest := by
  simp only [header?, Option.bind_eq_bind, Option.bind_eq_some_iff] at hread
  obtain ⟨c1, h1, c2, h2, c3, h3, c4, h4, h5⟩ := hread
  obtain ⟨create, hcreate, rfl⟩ := afterWord_eq_some h1
  obtain ⟨createGap, hcreateNe, hcreateGap, rfl⟩ := afterBlanks_eq_some h2
  obtain ⟨table, htable, rfl⟩ := afterWord_eq_some h3
  obtain ⟨tableGap, htableNe, htableGap, rfl⟩ := afterBlanks_eq_some h4
  split at h5
  · simp at h5
  · rename_i hname
    split at h5
    · rename_i tail hopen
      obtain ⟨rfl, rfl⟩ := Prod.mk.inj (Option.some.inj h5)
      obtain ⟨nameGap, hnameGap, hsplit⟩ := exists_gap (c4.dropWhile isWord)
      rw [hopen] at hsplit
      have hword : IsName (c4.takeWhile isWord) :=
        ⟨by simpa using hname, fun c hc => List.mem_takeWhile_imp hc⟩
      refine ⟨⟨create, createGap, table, tableGap, c4.takeWhile isWord, nameGap, hcreate,
        hcreateNe, hcreateGap, htable, htableNe, htableGap, hword, hnameGap⟩, rfl, ?_⟩
      have hc4 : c4 = c4.takeWhile isWord ++ (nameGap ++ '(' :: tail) := by
        rw [← hsplit, List.takeWhile_append_dropWhile]
      simp only [Header.text, List.append_assoc, List.singleton_append]
      rw [← hc4]
    · simp at h5

/-- No header starts but with its first letter. -/
theorem header?_cons_eq_none {c : Char} (h : c.toUpper ≠ 'C') (cs : List Char) :
    header? (c :: cs) = none := by
  have hword : afterWord "CREATE".toList (c :: cs) = none := if_neg h
  rw [header?, hword]
  rfl

/-- A character that is neither a letter, a blank, a word character nor the opening parenthesis
    stands in no header. -/
theorem Header.not_mem_text (h : Header) {c : Char} (hupper : c.toUpper = c)
    (hcreate : c ∉ "CREATE".toList) (htable : c ∉ "TABLE".toList) (hblank : isBlank c = false)
    (hword : isWord c = false) (hopen : c ≠ '(') : c ∉ h.text := by
  simp only [Header.text, List.mem_append, List.mem_singleton, not_or]
  refine ⟨?_, h.createGap_isGap.not_mem hblank, ?_, h.tableGap_isGap.not_mem hblank,
    h.name_isName.not_mem hword, h.nameGap_isGap.not_mem hblank, hopen⟩
  · intro hmem
    exact hcreate (h.create_upper ▸ mem_upperAscii hupper hmem)
  · intro hmem
    exact htable (h.table_upper ▸ mem_upperAscii hupper hmem)

/-- No block ends within a header. -/
theorem Header.semicolon_not_mem (h : Header) : ';' ∉ h.text :=
  h.not_mem_text (by decide) (by decide) (by decide) (by decide) (by decide) (by decide)

/-- No section is closed within a header. -/
theorem Header.close_not_mem (h : Header) : ')' ∉ h.text :=
  h.not_mem_text (by decide) (by decide) (by decide) (by decide) (by decide) (by decide)

end Block

end AccessLayer
