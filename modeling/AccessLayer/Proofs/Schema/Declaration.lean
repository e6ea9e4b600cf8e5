import AccessLayer.Proofs.Schema.Layout

namespace AccessLayer

open Text Fragment

/-- A word that spells a keyword is the keyword in upper case. -/
theorem Spells.ofList {keyword : String} {word : List Char} (h : Spells keyword word) :
    String.ofList (upperAscii word) = keyword := by
  rw [h, String.ofList_toList]

private theorem Category.lookup_spelling {category : Category} {keyword : String}
    (h : keyword ∈ category.spellings) : Category.declared.lookup keyword = some category := by
  have hall : ∀ c ∈ Category.all, ∀ k ∈ c.spellings, Category.declared.lookup k = some c := by
    decide
  exact hall category (Category.mem_all category) keyword h

/-- The name of a type, which is what stands before its parameters. -/
theorem TypeToken.exists_base {category : Category} {token : List Char}
    (h : TypeToken category token) :
    ∃ keyword base tail, keyword ∈ category.spellings ∧ Spells keyword base ∧
      token = base ++ tail ∧ (tail = [] ∨ ∃ inner, tail = '(' :: inner) := by
  cases h with
  | bare hkeyword hspells => exact ⟨_, token, [], hkeyword, hspells, by simp, Or.inl rfl⟩
  | parameterised hkeyword hspells _ => exact ⟨_, _, _, hkeyword, hspells, rfl, Or.inr ⟨_, rfl⟩⟩

/-- A type is recognized in any spelling, with its parameters or without. -/
theorem TypeToken.ofToken {category : Category} {token : List Char} (h : TypeToken category token) :
    Category.ofToken token = category := by
  obtain ⟨keyword, base, tail, hkeyword, hspells, rfl, htail⟩ := h.exists_base
  obtain ⟨hne, hplain⟩ := Category.spellings_plain hkeyword
  have hbase := hspells.plain hplain
  have htake : (base ++ tail).takeWhile (· != '(') = base := by
    have hopen : ∀ c ∈ base, (c != '(') = true := by
      intro c hc
      simpa using (isPlain_iff.mp (hbase c hc)).2.1
    rw [List.takeWhile_append_of_pos hopen]
    rcases htail with rfl | ⟨inner, rfl⟩ <;> simp
  have htrim : trim base = base :=
    trim_of_solid (hspells.ne_nil hne) fun c hc => (isPlain_iff.mp (hbase c hc)).1
  rw [Category.ofToken, Category.baseName, htake, htrim, hspells.ofList,
    Category.lookup_spelling hkeyword, Option.getD_some]

/-- A marker of two words in upper case, where it applies. -/
def markerPair (first second : String) (applies : Bool) : List String :=
  if applies then [first, second] else []

private theorem MarkerPair.map_upper {first second : String} {applies : Bool}
    {words : List (List Char)}
    (h : MarkerPair first second applies words) :
    words.map (String.ofList ∘ upperAscii) = markerPair first second applies := by
  unfold MarkerPair at h
  unfold markerPair
  split at h
  · rename_i happlies
    obtain ⟨a, b, ha, hb, rfl⟩ := h
    simp [happlies, ha.ofList, hb.ofList]
  · rename_i happlies
    simp [happlies, h]

/-- The markers of a column tell whether it may be empty, whether it is the key, and what it refers
    to; what it refers to is never taken for a marker. -/
theorem markers_of_columnWords {c : Column} {notNull primaryKey references : List (List Char)}
    (hnull : MarkerPair "NOT" "NULL" (!c.nullable) notNull)
    (hkey : MarkerPair "PRIMARY" "KEY" c.marked primaryKey)
    (hreference : ReferenceWords c.reference references) :
    let markers := notNull ++ (primaryKey ++ references)
    hasPair "NOT" "NULL" (markers.map (String.ofList ∘ upperAscii)) = !c.nullable ∧
      hasPair "PRIMARY" "KEY" (markers.map (String.ofList ∘ upperAscii)) = c.marked ∧
      (target? markers).map String.ofList = c.reference := by
  have hskip {first second : String} {applies : Bool} {words : List (List Char)}
      (h : MarkerPair first second applies words) (hfirst : first ≠ "REFERENCES")
      (hsecond : second ≠ "REFERENCES") (more : List (List Char)) :
      target? (words ++ more) = target? more := by
    unfold MarkerPair at h
    split at h
    · obtain ⟨a, b, ha, hb, rfl⟩ := h
      simp [target?, ha.ofList, hb.ofList, hfirst, hsecond]
    · rw [h, List.nil_append]
  intro markers
  have htarget : target? markers = target? references := by
    rw [hskip hnull (by decide) (by decide), hskip hkey (by decide) (by decide)]
  have hupper : markers.map (String.ofList ∘ upperAscii) =
      markerPair "NOT" "NULL" (!c.nullable) ++ (markerPair "PRIMARY" "KEY" c.marked ++
        references.map (String.ofList ∘ upperAscii)) := by
    rw [List.map_append, List.map_append, hnull.map_upper, hkey.map_upper]
  rw [htarget, hupper]
  unfold ReferenceWords at hreference
  cases hcase : c.reference with
  | none =>
    rw [hcase] at hreference
    rw [show references = [] from hreference]
    cases c.nullable <;> cases c.marked <;> simp [markerPair, hasPair, target?]
  | some target =>
    rw [hcase] at hreference
    obtain ⟨a, ha, rfl⟩ := hreference
    cases c.nullable <;> cases c.marked <;>
      simp [markerPair, hasPair, target?, ha.ofList, String.ofList_toList]

private theorem clauseWords_of_spaced {name type line : List Char} {markers : List (List Char)}
    {category : Category} (hname : IsColumnName name) (htype : TypeToken category type)
    (h : Spaced (name :: type :: markers) line) :
    ∃ keyword base others, keyword ∈ category.spellings ∧ Spells keyword base ∧
      solidPieces (fun c => isBlank c || c == '(') line = name :: base :: others := by
  obtain ⟨keyword, base, tail, hkeyword, hspells, rfl, htail⟩ := htype.exists_base
  obtain ⟨hne, hplain⟩ := Category.spellings_plain hkeyword
  have hbase : ∀ c ∈ base, (isBlank c || c == '(') = false := by
    intro c hc
    obtain ⟨hblank, hopen, _⟩ := isPlain_iff.mp (hspells.plain hplain c hc)
    simp [hblank, hopen]
  have hnameFree : ∀ c ∈ name, (isBlank c || c == '(') = false := by
    intro c hc
    obtain ⟨hblank, hopen, _⟩ := hname.plain c hc
    simp [hblank, hopen]
  have hfirst (more : List Char)
      (hmore : more = [] ∨ ∃ c rest, more = c :: rest ∧ (isBlank c || c == '(') = true) :
      ∃ others, solidPieces (fun c => isBlank c || c == '(') (base ++ more) = base :: others := by
    rcases hmore with rfl | ⟨c, rest, rfl, hc⟩
    · exact ⟨[], by rw [List.append_nil, solidPieces_of_free (hspells.ne_nil hne) hbase]⟩
    · exact ⟨_, solidPieces_word (hspells.ne_nil hne) hbase hc rest⟩
  cases h with
  | @cons _ gap _ rest hgapNe hgap hrest =>
    have hrestSplit : ∃ more, rest = base ++ more ∧
        (more = [] ∨ ∃ c others, more = c :: others ∧ (isBlank c || c == '(') = true) := by
      cases hrest with
      | last =>
        refine ⟨tail, rfl, ?_⟩
        rcases htail with rfl | ⟨inner, rfl⟩
        · exact Or.inl rfl
        · exact Or.inr ⟨'(', inner, rfl, by decide⟩
      | @cons _ gap' _ rest' hgapNe' hgap' _ =>
        refine ⟨tail ++ (gap' ++ rest'), by simp, Or.inr ?_⟩
        rcases htail with rfl | ⟨inner, rfl⟩
        · obtain ⟨d, ds, rfl⟩ := List.exists_cons_of_ne_nil hgapNe'
          exact ⟨d, ds ++ rest', rfl, by simp [(hgap' d (by simp)).1]⟩
        · exact ⟨'(', _, rfl, by decide⟩
    obtain ⟨more, rfl, hmore⟩ := hrestSplit
    obtain ⟨others, hothers⟩ := hfirst more hmore
    refine ⟨keyword, base, others, hkeyword, hspells, ?_⟩
    rw [solidPieces_word_gap hname.ne_nil hnameFree hgapNe, hothers]
    intro d hd
    simp [(hgap d hd).1]

/-- A written column is taken for no clause about the table, since no type is called like a word of
    such clauses. -/
theorem not_isTableClause_of_spaced {name type line : List Char} {markers : List (List Char)}
    {category : Category} (hname : IsColumnName name) (htype : TypeToken category type)
    (h : Spaced (name :: type :: markers) line) : isTableClause line = false := by
  obtain ⟨keyword, base, others, hkeyword, hspells, hpieces⟩ :=
    clauseWords_of_spaced hname htype h
  have hnot {clause : String} (hclause : clause ∈ ["CONSTRAINT", "UNIQUE", "CHECK"]) :
      String.ofList (upperAscii name) ≠ clause := by
    rintro rfl
    exact hname.not_clause _ hclause (by rw [Spells, String.toList_ofList])
  have hkey : keyword ≠ "KEY" := by
    have hall : ∀ c ∈ Category.all, ∀ k ∈ c.spellings, k ≠ "KEY" := by decide
    exact hall category (Category.mem_all category) keyword hkeyword
  simp only [isTableClause, hpieces, List.map_cons, Function.comp_apply, hspells.ofList]
  split
  · rename_i heq
    exact absurd (List.cons.inj heq).1 (hnot (by simp))
  · rename_i heq
    exact absurd (List.cons.inj heq).1 (hnot (by simp))
  · rename_i heq
    exact absurd (List.cons.inj heq).1 (hnot (by simp))
  · rename_i heq
    exact absurd (List.cons.inj (List.cons.inj heq).2).1 hkey
  · rename_i heq
    exact absurd (List.cons.inj (List.cons.inj heq).2).1 hkey
  · rfl

/-- Reading undoes writing for one column. -/
theorem declaration_of_columnText {c : Column} {line : List Char} (hc : c.IsWritable)
    (h : ColumnText c line) : declaration? line = some c ∧ IsLine line := by
  obtain ⟨words, hwords, hspaced⟩ := h
  have htokens := hwords.isToken hc
  have hline := hspaced.isLine htokens
  have hread := words_of_spaced hspaced htokens
  refine ⟨?_, hline⟩
  obtain ⟨htype, hnull, hkey, hreference⟩ := hwords
  obtain ⟨hnullable, hmarked, htarget⟩ := markers_of_columnWords hnull hkey hreference
  obtain ⟨last, hlast, _, hcomma⟩ := hline.ends_solid
  have hkeep : dropEnd (· == ',') line = line :=
    dropEnd_of_getLast? hlast (by simpa using hcomma)
  rw [declaration?, not_isTableClause_of_spaced hc.name htype hspaced]
  simp only [Bool.false_eq_true, if_false, column?, hkeep, hread]
  rw [hnullable, hmarked, htarget, htype.ofToken, String.ofList_toList, Bool.not_not]

end AccessLayer
