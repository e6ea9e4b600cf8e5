import AccessLayer.Proofs.Schema.Occurrence
import AccessLayer.Proofs.Schema.Token
import AccessLayer.Proofs.Text.Inline
import AccessLayer.Schema.Reading

namespace AccessLayer

open Text

namespace Fragment

/-- The characters that part the words by which a clause is told from a column. -/
def Parts (c : Char) : Prop := isBlank c = true ∨ c = '('

/-- The text opens with these words, each in any case and each ended by a blank, an opening
    parenthesis or the end of the text. -/
def Opens : List String → List Char → Prop
  | [], _ => True
  | k :: ks, cs => ∃ gap word rest, cs = gap ++ (word ++ rest) ∧ (∀ c ∈ gap, Parts c) ∧
      Spells k word ∧ (∀ c ∈ rest.head?, Parts c) ∧ Opens ks rest

/-- The words with which a clause about the table opens. -/
def clauses : List (List String) :=
  [["CONSTRAINT"], ["UNIQUE"], ["CHECK"], ["PRIMARY", "KEY"], ["FOREIGN", "KEY"]]

private theorem parts_iff {c : Char} : Parts c ↔ (isBlank c || c == '(') = true := by
  simp [Parts]

private theorem opens_iff {ks : List String}
    (hks : ∀ k ∈ ks, k.toList ≠ [] ∧ k.toList.all isPlain = true) (cs : List Char) :
    Opens ks cs ↔
      ks <+: (solidPieces (fun c => isBlank c || c == '(') cs).map (String.ofList ∘ upperAscii) := by
  induction ks generalizing cs with
  | nil => simp [Opens]
  | cons k ks ih =>
    obtain ⟨hne, hplain⟩ := hks k (by simp)
    have hrest := ih fun k hk => hks k (by simp [hk])
    constructor
    · rintro ⟨gap, word, rest, rfl, hgap, hspells, hend, hopens⟩
      have hfree : ∀ c ∈ word, (isBlank c || c == '(') = false := by
        intro c hc
        obtain ⟨hblank, hopen, -⟩ := isPlain_iff.mp (hspells.plain hplain c hc)
        simp [hblank, hopen]
      rw [solidPieces_append_separators fun c hc => parts_iff.mp (hgap c hc),
        solidPieces_append (hspells.ne_nil hne) hfree fun c hc => parts_iff.mp (hend c hc),
        List.map_cons, Function.comp_apply, show upperAscii word = k.toList from hspells,
        String.ofList_toList]
      exact (List.prefix_cons_inj k).mpr ((hrest rest).mp hopens)
    · intro h
      cases hpieces : solidPieces (fun c => isBlank c || c == '(') cs with
      | nil =>
        rw [hpieces] at h
        exact absurd h (by simp)
      | cons word more =>
        rw [hpieces, List.map_cons, List.cons_prefix_cons] at h
        obtain ⟨hword, hmore⟩ := h
        obtain ⟨gap, rest, hcs, hgap, -, -, hend, rfl⟩ := solidPieces_eq_cons_iff.mp hpieces
        refine ⟨gap, word, rest, hcs, fun c hc => parts_iff.mpr (hgap c hc), ?_,
          fun c hc => parts_iff.mpr (hend c hc), (hrest rest).mpr hmore⟩
        rw [Spells, hword, Function.comp_apply, String.toList_ofList]

/-- A fragment is a clause about the table exactly when it opens with the words of one. -/
theorem isTableClause_iff (f : Fragment) :
    isTableClause f = true ↔ ∃ ks ∈ clauses, Opens ks f := by
  have hplain : ∀ ks ∈ clauses, ∀ k ∈ ks, k.toList ≠ [] ∧ k.toList.all isPlain = true := by decide
  have hopens : (∃ ks ∈ clauses, Opens ks f) ↔ ∃ ks ∈ clauses,
      ks <+: (solidPieces (fun c => isBlank c || c == '(') f).map (String.ofList ∘ upperAscii) :=
    exists_congr fun ks => and_congr_right fun hks => opens_iff (hplain ks hks) f
  rw [hopens, isTableClause]
  generalize (solidPieces _ f).map _ = ws
  constructor
  · intro h
    split at h
    · exact ⟨["CONSTRAINT"], by decide, _, rfl⟩
    · exact ⟨["UNIQUE"], by decide, _, rfl⟩
    · exact ⟨["CHECK"], by decide, _, rfl⟩
    · exact ⟨["PRIMARY", "KEY"], by decide, _, rfl⟩
    · exact ⟨["FOREIGN", "KEY"], by decide, _, rfl⟩
    · cases h
  · rintro ⟨ks, hks, more, rfl⟩
    simp only [clauses, List.mem_cons, List.not_mem_nil, or_false] at hks
    rcases hks with rfl | rfl | rfl | rfl | rfl <;> rfl

/-- What a word of a column section is: it is not empty, and holds neither a blank nor a comment. -/
structure IsSectionWord (word : List Char) : Prop where
  ne_nil : word ≠ []
  solid : IsSolid word
  no_comment : ¬ HoldsComment word

/-- The parts of a line leave nothing out but commas. -/
theorem areParts_cut (depth : Nat) (cs : List Char) : AreParts cs (cut depth cs) := by
  induction cs generalizing depth with
  | nil => exact ⟨List.prefix_rfl, nofun⟩
  | cons c cs ih =>
    rw [cut]
    split
    · exact (ih 0).start c
    · exact (ih (depthAfter depth c)).extendFirst c

/-- What is left at the front is a beginning. -/
theorem prefix_dropEnd (p : Char → Bool) (cs : List Char) : dropEnd p cs <+: cs := by
  obtain ⟨tail, -, hcs⟩ := exists_dropped_end p cs
  exact ⟨tail, hcs.symm⟩

/-- Fragments hold no comment, as lines are cut behind it. -/
theorem not_holdsComment_of_mem_ofBody {body : List Char} {f : Fragment} (h : f ∈ ofBody body) :
    ¬ HoldsComment f := by
  obtain ⟨part, hpart, rfl⟩ := List.mem_map.mp (List.mem_filter.mp h).1
  obtain ⟨line, -, hcut⟩ := List.mem_flatMap.mp hpart
  have htrim : trim part <:+: part :=
    (prefix_dropEnd isBlank _).isInfix.trans (List.dropWhile_suffix isBlank).isInfix
  have hline : trim part <:+: beforeComment line := htrim.trans ((areParts_cut 0 _).within hcut)
  exact fun hcomment => no_dashes_beforeComment line (hcomment.trans hline)

/-- The words of a fragment that declare a column. -/
def columnWords (f : Fragment) : List (List Char) := words (dropEnd (· == ',') f)

/-- The words of a fragment are words of the section outside comments. -/
theorem isSectionWord_of_mem_columnWords {body : List Char} {f : Fragment} (hf : f ∈ ofBody body)
    {word : List Char} (h : word ∈ columnWords f) : IsSectionWord word := by
  obtain ⟨hpiece, hne⟩ := List.mem_filter.mp h
  have hword : word <:+: f :=
    ((areParts_pieces isBlank _).within hpiece).trans (prefix_dropEnd _ f).isInfix
  exact ⟨by simpa using hne, isSolid_of_mem_words h,
    fun hcomment => not_holdsComment_of_mem_ofBody hf (hcomment.trans hword)⟩

/-- The fragment declares a column: it is no clause about the table, and has a name and a type. -/
def Survives (f : Fragment) : Prop :=
  (∀ ks ∈ clauses, ¬ Opens ks f) ∧ 2 ≤ (columnWords f).length

/-- Behind the type, PRIMARY stands directly before KEY, in any case. -/
def CarriesKey (f : Fragment) : Prop :=
  ∃ name type before first second after,
    columnWords f = name :: type :: (before ++ first :: second :: after) ∧
      Spells "PRIMARY" first ∧ Spells "KEY" second

private theorem hasPair_iff {first second : String} {ws : List String} :
    hasPair first second ws = true ↔ [first, second] <:+: ws := by
  induction ws with
  | nil => simp [hasPair]
  | cons a ws ih =>
    cases ws with
    | nil => simp [hasPair, List.infix_cons_iff, List.cons_prefix_cons]
    | cons b ws =>
      have hfront : [first, second] <+: a :: b :: ws ↔ a = first ∧ b = second := by
        simp [List.cons_prefix_cons, eq_comm]
      rw [hasPair, Bool.or_eq_true, ih, @List.infix_cons_iff _ _ a, hfront]
      simp

private theorem spells_iff {keyword : String} {word : List Char} :
    Spells keyword word ↔ String.ofList (upperAscii word) = keyword := by
  rw [Spells, ← String.toList_inj, String.toList_ofList]

/-- The words of a fragment tell everything about its column. -/
theorem column?_eq_some_iff {f : Fragment} {c : Column} :
    column? f = some c ↔ ∃ name type markers, columnWords f = name :: type :: markers ∧
      c = {
        name := String.ofList name
        category := .ofToken type
        nullable := !hasPair "NOT" "NULL" (markers.map (String.ofList ∘ upperAscii))
        marked := hasPair "PRIMARY" "KEY" (markers.map (String.ofList ∘ upperAscii))
        reference := (target? markers).map String.ofList } := by
  unfold column? columnWords
  split
  · rename_i name type markers hwords
    simp [hwords, eq_comm]
  · rename_i hwords
    constructor
    · nofun
    · rintro ⟨name, type, markers, hsome, -⟩
      exact absurd hsome (hwords name type markers)

/-- A fragment declares a column if it has two words. -/
theorem column?_isSome_iff (f : Fragment) :
    (column? f).isSome = true ↔ 2 ≤ (columnWords f).length := by
  rw [Option.isSome_iff_exists]
  constructor
  · rintro ⟨c, hc⟩
    obtain ⟨name, type, markers, hwords, -⟩ := column?_eq_some_iff.mp hc
    simp [hwords]
  · intro hlength
    match hwords : columnWords f, hlength with
    | name :: type :: markers, _ =>
      exact ⟨_, column?_eq_some_iff.mpr ⟨name, type, markers, hwords, rfl⟩⟩

/-- A column is marked where its fragment carries the key. -/
theorem marked_column?_iff {f : Fragment} {c : Column} (h : column? f = some c) :
    c.marked = true ↔ CarriesKey f := by
  obtain ⟨name, type, markers, hwords, rfl⟩ := column?_eq_some_iff.mp h
  rw [hasPair_iff, List.infix_map_iff]
  constructor
  · rintro ⟨pair, ⟨before, after, hmarkers⟩, hpair⟩
    obtain ⟨first, rest, rfl, hfirst, hrest⟩ := List.map_eq_cons_iff.mp hpair.symm
    obtain ⟨second, more, rfl, hsecond, hmore⟩ := List.map_eq_cons_iff.mp hrest
    obtain rfl := List.map_eq_nil_iff.mp hmore
    refine ⟨name, type, before, first, second, after, ?_, spells_iff.mpr hfirst,
      spells_iff.mpr hsecond⟩
    rw [hwords, ← hmarkers]
    simp
  · rintro ⟨name', type', before, first, second, after, hwords', hfirst, hsecond⟩
    rw [hwords] at hwords'
    obtain ⟨-, -, rfl⟩ : name = name' ∧ type = type' ∧
        markers = before ++ first :: second :: after := by simpa using hwords'
    exact ⟨[first, second], ⟨before, after, by simp⟩,
      by simp [spells_iff.mp hfirst, spells_iff.mp hsecond]⟩

/-- The name of a column and what it refers to are words of the section. -/
theorem words_of_column? {body : List Char} {f : Fragment} (hf : f ∈ ofBody body) {c : Column}
    (h : column? f = some c) :
    IsSectionWord c.name.toList ∧ ∀ target ∈ c.reference, IsSectionWord target.toList := by
  obtain ⟨name, type, markers, hwords, rfl⟩ := column?_eq_some_iff.mp h
  have hword {word : List Char} (hmem : word ∈ name :: type :: markers) : IsSectionWord word :=
    isSectionWord_of_mem_columnWords hf (hwords ▸ hmem)
  refine ⟨?_, fun target htarget => ?_⟩
  · rw [String.toList_ofList]
    exact hword (by simp)
  · obtain ⟨word, hfound, rfl⟩ := Option.map_eq_some_iff.mp htarget
    have hmem : word ∈ markers :=
      (List.dropWhile_suffix _).subset (List.mem_of_mem_tail (List.mem_of_mem_head? hfound))
    rw [String.toList_ofList]
    exact hword (by simp [hmem])

/-- A fragment declares a column exactly if it survives. -/
theorem declaration?_isSome_iff (f : Fragment) :
    (declaration? f).isSome = true ↔ Survives f := by
  have hclause := isTableClause_iff f
  unfold declaration? Survives
  split
  · rename_i htrue
    simp only [Option.isSome_none, Bool.false_eq_true, false_iff, not_and]
    intro hnone
    obtain ⟨ks, hks, hopens⟩ := hclause.mp htrue
    exact absurd hopens (hnone ks hks)
  · rename_i hfalse
    rw [column?_isSome_iff]
    refine ⟨fun hlength => ⟨fun ks hks hopens => ?_, hlength⟩, And.right⟩
    exact hfalse (hclause.mpr ⟨ks, hks, hopens⟩)

/-- What survives declares the column that its words tell of. -/
theorem declaration?_eq_column? {f : Fragment} (h : Survives f) : declaration? f = column? f := by
  rw [declaration?, if_neg]
  intro hclause
  obtain ⟨ks, hks, hopens⟩ := (isTableClause_iff f).mp hclause
  exact h.1 ks hks hopens

instance : DecidablePred Survives := fun f =>
  decidable_of_iff ((declaration? f).isSome = true) (declaration?_isSome_iff f)

/-- The fragments of a column section that declare columns, in order. -/
def survivors (body : List Char) : List Fragment := (ofBody body).filter (Survives ·)

/-- Each survivor declares one column, and nothing else does. -/
theorem map_column?_survivors (body : List Char) :
    (survivors body).map column? = ((ofBody body).filterMap declaration?).map some := by
  rw [survivors]
  induction ofBody body with
  | nil => rfl
  | cons f fs ih =>
    by_cases hf : Survives f
    · obtain ⟨c, hc⟩ := Option.isSome_iff_exists.mp ((declaration?_isSome_iff f).mpr hf)
      rw [List.filter_cons_of_pos (by simpa using hf), List.filterMap_cons_some hc, List.map_cons,
        List.map_cons, ih, ← declaration?_eq_column? hf, hc]
    · have hnone : declaration? f = none := by
        simpa using mt (declaration?_isSome_iff f).mp hf
      rw [List.filter_cons_of_neg (by simpa using hf), List.filterMap_cons_none hnone, ih]

end Fragment

open Fragment

/-- A column stays in its place and loses its mark to an earlier one. -/
theorem getElem?_keepFirstKey (keyed : Bool) (cs : List Column) (i : Nat) :
    (keepFirstKey keyed cs)[i]? = cs[i]?.map fun c =>
      { c with marked := c.marked && !(keyed || (cs.take i).any (·.marked)) } := by
  induction cs generalizing keyed i with
  | nil => rfl
  | cons c cs ih =>
    cases i with
    | zero => simp [keepFirstKey]
    | succ i => simp [keepFirstKey, ih, Bool.or_assoc]

/-- No column is lost where marks are. -/
theorem length_keepFirstKey (keyed : Bool) (cs : List Column) :
    (keepFirstKey keyed cs).length = cs.length := by
  induction cs generalizing keyed with
  | nil => rfl
  | cons c cs ih => rw [keepFirstKey, List.length_cons, ih, List.length_cons]

/-- One column at most is marked. -/
theorem countP_marked_keepFirstKey (keyed : Bool) (cs : List Column) :
    (keepFirstKey keyed cs).countP (·.marked) ≤ if keyed then 0 else 1 := by
  induction cs generalizing keyed with
  | nil => simp [keepFirstKey]
  | cons c cs ih =>
    have hrest := ih (keyed || c.marked)
    rw [keepFirstKey, List.countP_cons]
    cases keyed <;> cases hc : c.marked <;> simp [hc] at hrest ⊢ <;> omega

/-- The columns are those that the fragments declare, one by one. The first of them that carries the
    mark of the key keeps it; a later one that carries it differs from what it declares in nothing
    but the mark. -/
structure DeclaredBy (fs : List Fragment) (cs : List Column) : Prop where
  length : cs.length = fs.length
  column : ∀ i f c, fs[i]? = some f → cs[i]? = some c →
    ∃ d, column? f = some d ∧ c = { d with marked := c.marked } ∧
      (c.marked = true ↔ f.CarriesKey ∧ ∀ g ∈ fs.take i, ¬ g.CarriesKey)

/-- What holds for a table however it was written. -/
structure Table.WellFormed (t : Table) : Prop where
  name : IsName t.name.toList
  columns : ∀ c ∈ t.columns, IsSectionWord c.name.toList ∧
    ∀ target ∈ c.reference, IsSectionWord target.toList
  one_key : t.columns.countP (·.marked) ≤ 1

private theorem any_marked_iff {fs : List Fragment} {ds : List Column}
    (h : fs.map column? = ds.map some) :
    ds.any (·.marked) = true ↔ ∃ f ∈ fs, f.CarriesKey := by
  rw [List.any_eq_true]
  constructor
  · rintro ⟨d, hd, hmarked⟩
    obtain ⟨f, hf, hcolumn⟩ := List.mem_map.mp (h ▸ List.mem_map_of_mem hd)
    exact ⟨f, hf, (marked_column?_iff hcolumn).mp hmarked⟩
  · rintro ⟨f, hf, hcarries⟩
    obtain ⟨d, hd, hcolumn⟩ := List.mem_map.mp (h ▸ List.mem_map_of_mem hf)
    exact ⟨d, hd, (marked_column?_iff hcolumn.symm).mpr hcarries⟩

/-- The columns of a section are declared by its survivors, one by one. -/
theorem declaredBy_readColumns (body : List Char) :
    DeclaredBy (survivors body) (readColumns body) := by
  have hmap := map_column?_survivors body
  rw [readColumns]
  generalize (ofBody body).filterMap declaration? = ds at hmap
  generalize survivors body = fs at hmap
  have hlength : fs.length = ds.length := by simpa using congrArg List.length hmap
  refine ⟨by rw [length_keepFirstKey, hlength], fun i f c hf hc => ?_⟩
  rw [getElem?_keepFirstKey] at hc
  obtain ⟨d, hd, rfl⟩ := Option.map_eq_some_iff.mp hc
  have hcolumn : column? f = some d := by
    have hplace := congrArg (·[i]?) hmap
    simpa only [List.getElem?_map, hf, hd, Option.map_some, Option.some_inj] using hplace
  have hearlier : (ds.take i).any (·.marked) = true ↔ ∃ g ∈ fs.take i, g.CarriesKey :=
    any_marked_iff (by rw [List.map_take, hmap, List.map_take])
  refine ⟨d, hcolumn, rfl, ?_⟩
  rw [Bool.and_eq_true, marked_column?_iff hcolumn, Bool.false_or, Bool.not_eq_true',
    ← Bool.not_eq_true, hearlier]
  push Not
  exact Iff.rfl

/-- Every table read from a text is well formed, whatever the text is. -/
theorem Table.wellFormed_of_mem_readSchema {text : String} {t : Table} (h : t ∈ readSchema text) :
    t.WellFormed := by
  obtain ⟨b, hb, rfl⟩ := List.mem_map.mp h
  refine ⟨by simpa [Block.table] using Block.isName_of_mem_all hb, fun c hc => ?_, ?_⟩
  · obtain ⟨i, hi⟩ := List.mem_iff_getElem?.mp hc
    have hdeclared := declaredBy_readColumns b.body
    have hlt : i < (survivors b.body).length :=
      hdeclared.length ▸ (List.getElem?_eq_some_iff.mp hi).1
    have hf := List.getElem?_eq_getElem hlt
    obtain ⟨d, hd, hsame, -⟩ := hdeclared.column i _ c hf hi
    have hword := words_of_column? (List.mem_filter.mp (List.mem_of_getElem? hf)).1 hd
    rw [hsame]
    exact hword
  · exact countP_marked_keepFirstKey false _

/-- Every table read from a text is well formed, and its columns are those that the fragments of its
    block declare, clauses about the table aside. -/
theorem readSchema_wellFormed {text : String} {t : Table} (h : t ∈ readSchema text) :
    t.WellFormed ∧ ∃ b ∈ Block.all text.toList,
      t.name = String.ofList b.name ∧ DeclaredBy (survivors b.body) t.columns := by
  refine ⟨Table.wellFormed_of_mem_readSchema h, ?_⟩
  obtain ⟨b, hb, rfl⟩ := List.mem_map.mp h
  exact ⟨b, hb, rfl, declaredBy_readColumns b.body⟩

/-- Stray parentheses and commas, comments, clauses, blanks of several kinds, and the mark of the
    key in more than one place. -/
def tangled : String :=
  "x; create\ttable\u00a0Jobs((,\n unique(a), -- b INT,\n id UUID not null Primary\u2003KEY,,) c\n" ++
    " job TEXT primary key references t(id)--,\n Primary Key (id), d\n)\n ;"

/-- A clause in small letters, a parenthesis for a name, a comment in the middle of a column and a
    second key. -/
theorem readSchema_wellFormed_tangled :
    ∃ t ∈ readSchema tangled,
      t.columns.map (fun c => (c.name, c.marked)) =
        [("id", true), (")", false), ("job", false)] ∧
      t.WellFormed ∧ ∃ b ∈ Block.all tangled.toList,
        t.name = String.ofList b.name ∧ DeclaredBy (survivors b.body) t.columns := by
  have hread : readSchema tangled = [⟨"Jobs", [⟨"id", .uuid, false, true, none⟩,
      ⟨")", .text, true, false, none⟩, ⟨"job", .text, true, false, some "t(id)"⟩]⟩] := by
    decide +kernel
  have hmem : ⟨"Jobs", [⟨"id", .uuid, false, true, none⟩, ⟨")", .text, true, false, none⟩,
      ⟨"job", .text, true, false, some "t(id)"⟩]⟩ ∈ readSchema tangled := by simp [hread]
  exact ⟨_, hmem, by decide, readSchema_wellFormed hmem⟩

end AccessLayer
