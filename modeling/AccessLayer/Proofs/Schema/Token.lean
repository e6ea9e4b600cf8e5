import AccessLayer.Proofs.Schema.Grammar
import AccessLayer.Proofs.Schema.Section

namespace AccessLayer

open Text Fragment

/-- A character that means nothing to the reader of a section. -/
def isPlain (c : Char) : Bool := !isBlank c && !(['(', ')', ',', ';', '-'].contains c)

/-- A word that a section keeps whole wherever it stands between gaps. -/
structure IsToken (word : List Char) : Prop where
  ne_nil : word ≠ []
  solid : ∀ c ∈ word, isBlank c = false
  no_semicolon : ';' ∉ word
  uncommented : Uncommented word
  uncut : Uncut word
  no_comma_last : word.getLast? ≠ some ','

/-- The characters that are plain: neither blanks nor any that parts fragments, blocks or
    comments. -/
theorem isPlain_iff {c : Char} : isPlain c = true ↔
    isBlank c = false ∧ c ≠ '(' ∧ c ≠ ')' ∧ c ≠ ',' ∧ c ≠ ';' ∧ c ≠ '-' := by
  simp [isPlain]

private theorem isPlain_of_isWord {c : Char} (h : isWord c = true) : isPlain c = true := by
  have hne {d : Char} (hd : isWord d = false) : c ≠ d := by
    rintro rfl
    rw [h] at hd
    cases hd
  exact isPlain_iff.mpr ⟨isBlank_eq_false_of_isWord h, hne (by decide), hne (by decide),
    hne (by decide), hne (by decide), hne (by decide)⟩

/-- A keyword in any case is as plain as it is in upper case. -/
theorem Spells.plain {keyword : String} {word : List Char} (h : Spells keyword word)
    (hkeyword : keyword.toList.all isPlain = true) : ∀ c ∈ word, isPlain c = true := by
  intro c hmem
  by_contra hplain
  have hupper : c.toUpper = c := by
    simp only [isPlain, Bool.and_eq_true, Bool.not_eq_true', not_and, Bool.not_eq_false] at hplain
    cases hblank : isBlank c with
    | true => exact toUpper_of_isBlank hblank
    | false =>
      have hmark := hplain hblank
      simp only [List.contains_eq_mem, List.mem_cons, List.not_mem_nil, or_false,
        decide_eq_true_eq] at hmark
      rcases hmark with rfl | rfl | rfl | rfl | rfl <;> decide
  have hin : c ∈ keyword.toList := h ▸ mem_upperAscii hupper hmem
  exact hplain (List.all_eq_true.mp hkeyword c hin)

/-- A keyword that is not empty is not spelled by nothing. -/
theorem Spells.ne_nil {keyword : String} {word : List Char} (h : Spells keyword word)
    (hkeyword : keyword.toList ≠ []) : word ≠ [] := by
  rintro rfl
  exact hkeyword h.symm

/-- Plain characters make a token. -/
theorem isToken_of_plain {word : List Char} (hne : word ≠ [])
    (hplain : ∀ c ∈ word, isPlain c = true) : IsToken word where
  ne_nil := hne
  solid c hc := (isPlain_iff.mp (hplain c hc)).1
  no_semicolon hmem := (isPlain_iff.mp (hplain _ hmem)).2.2.2.2.1 rfl
  uncommented := uncommented_of_not_mem fun hmem => (isPlain_iff.mp (hplain _ hmem)).2.2.2.2.2 rfl
  uncut := by
    apply uncut_of_plain
    intro c hc
    obtain ⟨_, hopen, hclose, hcomma, _⟩ := isPlain_iff.mp (hplain c hc)
    exact ⟨hopen, hclose, hcomma⟩
  no_comma_last hlast :=
    (isPlain_iff.mp (hplain _ (List.mem_of_getLast? hlast))).2.2.2.1 rfl

/-- A plain word keeps whole with a list in parentheses at its end, commas included. -/
theorem isToken_parenthesised {word inner : List Char} (hne : word ≠ [])
    (hplain : ∀ c ∈ word, isPlain c = true) (hinner : IsParameterList inner) :
    IsToken (word ++ '(' :: (inner ++ [')'])) := by
  have hword := isToken_of_plain hne hplain
  have hlist : Uncommented ('(' :: (inner ++ [')'])) := by
    have hopen : Uncommented ['('] := uncommented_of_not_mem (by decide)
    have hclose : Uncommented [')'] := uncommented_of_not_mem (by decide)
    have hbody := (uncommented_of_no_dashes hinner.no_comment).append hclose (by decide)
    intro more hmore
    rw [List.cons_append, beforeComment_cons (Or.inl (by decide)), hbody more hmore]
    rfl
  refine ⟨by simp, ?_, ?_, ?_, ?_, ?_⟩
  · intro c hc
    simp only [List.mem_append, List.mem_cons, List.not_mem_nil, or_false] at hc
    rcases hc with hc | rfl | hc | rfl
    · exact hword.solid c hc
    · decide
    · exact (hinner.plain c hc).1
    · decide
  · intro hmem
    simp only [List.mem_append, List.mem_cons, List.not_mem_nil, or_false] at hmem
    rcases hmem with hmem | h | hmem | h
    · exact hword.no_semicolon hmem
    · cases h
    · exact (hinner.plain _ hmem).2.2.2 rfl
    · cases h
  · exact hword.uncommented.append hlist (by simp)
  · exact hword.uncut.append
      (uncut_parenthesised fun c hc => ⟨(hinner.plain c hc).2.1, (hinner.plain c hc).2.2.1⟩)
  · have hend : word ++ '(' :: (inner ++ [')']) = (word ++ '(' :: inner) ++ [')'] := by simp
    rw [hend, List.getLast?_concat]
    decide

private theorem Text.IsName.isParameterList {name : List Char} (h : IsName name) :
    IsParameterList name where
  plain c hc := by
    obtain ⟨hblank, hopen, hclose, _, hsemicolon, _⟩ :=
      isPlain_iff.mp (isPlain_of_isWord (h.2 c hc))
    exact ⟨hblank, hopen, hclose, hsemicolon⟩
  no_comment hin :=
    (isPlain_iff.mp (isPlain_of_isWord (h.2 '-' (hin.subset (by simp))))).2.2.2.2.2 rfl

/-- The name of a column is a token. -/
theorem IsColumnName.isToken {name : List Char} (h : IsColumnName name) : IsToken name where
  ne_nil := h.ne_nil
  solid c hc := (h.plain c hc).1
  no_semicolon hmem := (h.plain _ hmem).2.2.2.2 rfl
  uncommented := uncommented_of_no_dashes h.no_comment
  uncut := by
    apply uncut_of_plain
    intro c hc
    obtain ⟨_, hopen, hclose, hcomma, _⟩ := h.plain c hc
    exact ⟨hopen, hclose, hcomma⟩
  no_comma_last hlast := (h.plain _ (List.mem_of_getLast? hlast)).2.2.2.1 rfl

/-- The spellings of types are plain words. -/
theorem Category.spellings_plain {category : Category} {keyword : String}
    (h : keyword ∈ category.spellings) :
    keyword.toList ≠ [] ∧ keyword.toList.all isPlain = true := by
  have hall : ∀ c ∈ Category.all, ∀ k ∈ c.spellings,
      k.toList ≠ [] ∧ k.toList.all isPlain = true := by decide
  exact hall category (Category.mem_all category) keyword h

/-- A type is a token, with its parameters or without. -/
theorem TypeToken.isToken {category : Category} {word : List Char} (h : TypeToken category word) :
    IsToken word := by
  cases h with
  | bare hkeyword hspells =>
    obtain ⟨hne, hplain⟩ := Category.spellings_plain hkeyword
    exact isToken_of_plain (hspells.ne_nil hne) (hspells.plain hplain)
  | parameterised hkeyword hspells hinner =>
    obtain ⟨hne, hplain⟩ := Category.spellings_plain hkeyword
    exact isToken_parenthesised (hspells.ne_nil hne) (hspells.plain hplain) hinner

/-- What a column refers to is a token, with its parentheses. -/
theorem IsTarget.isToken {word : List Char} (h : IsTarget word) : IsToken word := by
  cases h with
  | table hname => exact isToken_of_plain hname.1 fun c hc => isPlain_of_isWord (hname.2 c hc)
  | column hname hcolumn =>
    exact isToken_parenthesised hname.1 (fun c hc => isPlain_of_isWord (hname.2 c hc))
      hcolumn.isParameterList

/-- The words of a mark are tokens, in any case. -/
theorem MarkerPair.isToken {first second : String} {applies : Bool} {words : List (List Char)}
    (h : MarkerPair first second applies words)
    (hfirst : first.toList ≠ [] ∧ first.toList.all isPlain = true)
    (hsecond : second.toList ≠ [] ∧ second.toList.all isPlain = true) :
    ∀ word ∈ words, IsToken word := by
  unfold MarkerPair at h
  split at h
  · obtain ⟨a, b, ha, hb, rfl⟩ := h
    intro word hmem
    simp only [List.mem_cons, List.not_mem_nil, or_false] at hmem
    rcases hmem with rfl | rfl
    · exact isToken_of_plain (ha.ne_nil hfirst.1) (ha.plain hfirst.2)
    · exact isToken_of_plain (hb.ne_nil hsecond.1) (hb.plain hsecond.2)
  · simp [h]

/-- All words that declare a column are tokens. -/
theorem ColumnWords.isToken {c : Column} {words : List (List Char)} (h : ColumnWords c words)
    (hc : c.IsWritable) : ∀ word ∈ words, IsToken word := by
  obtain ⟨htype, hnull, hkey, hreference⟩ := h
  intro word hmem
  simp only [List.mem_cons, List.mem_append] at hmem
  rcases hmem with rfl | rfl | hmem | hmem | hmem
  · exact hc.name.isToken
  · exact htype.isToken
  · exact hnull.isToken (by decide) (by decide) word hmem
  · exact hkey.isToken (by decide) (by decide) word hmem
  · cases hcase : c.reference with
    | none =>
      rw [hcase] at hreference
      rw [show _ = [] from hreference] at hmem
      cases hmem
    | some target =>
      rw [hcase] at hreference
      obtain ⟨a, ha, rfl⟩ := hreference
      simp only [List.mem_cons, List.not_mem_nil, or_false] at hmem
      rcases hmem with rfl | rfl
      · exact isToken_of_plain (ha.ne_nil (by decide)) (ha.plain (by decide))
      · exact (hc.reference target hcase).isToken

end AccessLayer
