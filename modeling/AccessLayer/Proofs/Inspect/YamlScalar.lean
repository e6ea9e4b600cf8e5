import AccessLayer.Proofs.Inspect.Quotes
import AccessLayer.Proofs.Text.Inline

namespace AccessLayer

namespace YamlScalar

open Text (isBlank IsSolid inSpans_eq_true_iff)

/-- The text holds no line break of any kind. -/
def IsUnbroken (s : String) : Prop := ∀ c ∈ s.toList, isBreak c = false

instance : DecidablePred IsUnbroken := fun s =>
  decidable_of_iff (s.toList.all (!isBreak ·) = true) (by simp [IsUnbroken])

private theorem isBlank_of_isBreak {c : Char} (h : isBreak c = true) : isBlank c = true := by
  simp only [isBreak, List.contains_eq_mem, List.mem_cons, List.not_mem_nil, or_false,
    decide_eq_true_eq] at h
  refine (inSpans_eq_true_iff _ _).mpr ?_
  rcases h with h | h | h | h | h <;> rw [h] <;> decide

/-- A text without blanks has no line breaks. -/
theorem isUnbroken_of_isSolid {s : String} (h : IsSolid s.toList) : IsUnbroken s := by
  intro c hc
  by_contra hbreak
  rw [Bool.not_eq_false] at hbreak
  cases (h c hc).symm.trans (isBlank_of_isBreak hbreak)

/-- Texts without line breaks have none together. -/
theorem isUnbroken_append {s t : String} (hs : IsUnbroken s) (ht : IsUnbroken t) :
    IsUnbroken (s ++ t) := by
  intro c hc
  rw [String.toList_append] at hc
  rcases List.mem_append.mp hc with h | h
  · exact hs c h
  · exact ht c h

/-- A character between single quotes. -/
def singleQuotedChar (c : Char) : List Char := if c = '\'' then ['\'', '\''] else [c]

private theorem singleQuotedFrom_eq {cs : List Char} (h : ∀ c ∈ cs, isBreak c = false)
    (indent : Nat) :
    singleQuotedFrom indent cs = cs.flatMap singleQuotedChar := by
  induction cs with
  | nil => rfl
  | cons c cs ih =>
    rw [singleQuotedFrom, h c (by simp), ih fun d hd => h d (by simp [hd]), List.flatMap_cons,
      singleQuotedChar]
    simp

/-- The first character between single quotes. A single one is the closing quote. -/
def readSingleQuoted : List Char → Option (Char × List Char)
  | '\'' :: '\'' :: rest => some ('\'', rest)
  | '\'' :: _ => none
  | c :: rest => some (c, rest)
  | [] => none

private theorem readSingleQuoted_singleQuotedChar (c : Char) (rest : List Char) :
    readSingleQuoted (singleQuotedChar c ++ rest) = some (c, rest) := by
  unfold singleQuotedChar
  split
  · rename_i hquote
    subst hquote
    rfl
  · rename_i hother
    unfold readSingleQuoted
    split <;> simp_all

private theorem flatMap_singleQuotedChar_injective {cs ds : List Char}
    (h : cs.flatMap singleQuotedChar ++ ['\''] = ds.flatMap singleQuotedChar ++ ['\'']) :
    cs = ds := by
  have hchar : ReadsBack (fun _ => True) (fun _ => True) singleQuotedChar :=
    .of_reader readSingleQuoted fun c rest _ _ => readSingleQuoted_singleQuotedChar c rest
  have hinside : ReadsBack (fun cs : List Char => ∀ c ∈ cs, True) (· = ['\''])
      (List.flatMap singleQuotedChar) := by
    refine hchar.flatMap (fun _ _ => trivial) (fun _ _ _ => trivial) fun c rest _ hend => ?_
    have hread := readSingleQuoted_singleQuotedChar c rest
    rw [hend] at hread
    cases hread
  exact (hinside (fun _ _ => trivial) (fun _ _ => trivial) rfl rfl h).1

/-- A text on one line stands plain, unless it would be read as something else, or in quotes. -/
theorem render_cases {s : String} (h : IsUnbroken s) (indent : Nat) :
    (render indent s = s ∧ s ∉ reservedWords ∧ isPlain s = true) ∨
      (render indent s).toList = '\'' :: (s.toList.flatMap singleQuotedChar ++ ['\'']) ∨
      (render indent s).toList = '"' :: (s.toList.flatMap doubleQuotedChar ++ ['"']) := by
  have hline : s.toList.contains '\n' = false := by
    simp only [List.contains_eq_mem, decide_eq_false_iff_not]
    intro hmem
    cases h _ hmem
  unfold render
  simp only [hline, Bool.false_eq_true, if_false, singleQuotedFrom_eq h]
  split_ifs with hplain hsingle
  · simp only [isAmbiguous, Bool.and_eq_true, Bool.not_eq_true', Bool.or_eq_false_iff,
      List.contains_eq_mem, decide_eq_false_iff_not] at hplain
    exact Or.inl ⟨rfl, hplain.1.1.1.1.1, hplain.2⟩
  · exact Or.inr (Or.inl String.toList_ofList)
  · exact Or.inr (Or.inr String.toList_ofList)

private theorem head_of_isPlain {s : String} (h : isPlain s = true) :
    s.toList.head? ≠ some '\'' ∧ s.toList.head? ≠ some '"' := by
  unfold isPlain at h
  split at h
  · cases h
  · rename_i c rest hs
    rw [hs]
    constructor <;> rintro hc <;> obtain rfl := Option.some.inj hc <;>
      simp [startsSpecial, startMarks] at h

/-- No two texts on one line are written alike, whether they stand plain or between quotes. -/
theorem render_injOn (indent : Nat) : Set.InjOn (render indent) {s | IsUnbroken s} := by
  intro s hs t ht h
  have hlist := congrArg String.toList h
  rcases render_cases hs indent with ⟨hs', -, hplain⟩ | hs' | hs' <;>
    rcases render_cases ht indent with ⟨ht', -, hplain'⟩ | ht' | ht' <;>
    rw [hs', ht'] at hlist
  · exact String.toList_inj.mp hlist
  · exact absurd (by rw [hlist]; rfl) (head_of_isPlain hplain).1
  · exact absurd (by rw [hlist]; rfl) (head_of_isPlain hplain).2
  · exact absurd (by rw [← hlist]; rfl) (head_of_isPlain hplain').1
  · exact String.toList_inj.mp (flatMap_singleQuotedChar_injective (List.cons.inj hlist).2)
  · cases (List.cons.inj hlist).1
  · exact absurd (by rw [← hlist]; rfl) (head_of_isPlain hplain').2
  · cases (List.cons.inj hlist).1
  · have hread := readsBack_quoted readEscaped_doubleQuotedChar head_doubleQuotedChar
    exact String.toList_inj.mp (hread.injOn trivial trivial trivial hlist)

/-- No text is written as one of the words that stand for something else. -/
theorem render_notMem_reservedWords {s : String} (h : IsUnbroken s) (indent : Nat) :
    render indent s ∉ reservedWords := by
  have hhead : ∀ w ∈ reservedWords, w.toList.head? ≠ some '\'' ∧ w.toList.head? ≠ some '"' := by
    decide
  rcases render_cases h indent with ⟨hplain, hword, -⟩ | hquoted | hquoted
  · rwa [hplain]
  · exact fun hmem => (hhead _ hmem).1 (by rw [hquoted]; rfl)
  · exact fun hmem => (hhead _ hmem).2 (by rw [hquoted]; rfl)

private theorem quoted_unbroken {text s : String} {quote : Char} {code : Char → List Char}
    (htext : text.toList = quote :: (s.toList.flatMap code ++ [quote]))
    (hquote : isBreak quote = false)
    (hcode : ∀ c ∈ s.toList, ∀ d ∈ code c, isBreak d = false) : IsUnbroken text := by
  intro d hd
  simp only [htext, List.mem_cons, List.mem_append, List.mem_flatMap, List.not_mem_nil,
    or_false] at hd
  rcases hd with rfl | ⟨c, hc, hd⟩ | rfl
  · exact hquote
  · exact hcode c hc d hd
  · exact hquote

private theorem hexDigits_unbroken (width n : Nat) :
    ∀ d ∈ hexDigits width n, isBreak d = false := by
  have hdigit : ∀ k : Fin 16, isBreak ("0123456789ABCDEF".toList.getD k '0') = false := by decide
  induction width generalizing n with
  | zero => simp [hexDigits]
  | succ width ih =>
    intro d hd
    rcases List.mem_append.mp hd with hfront | hlast
    · exact ih _ d hfront
    · rw [List.mem_singleton.mp hlast]
      exact hdigit ⟨n % 16, Nat.mod_lt n (by decide)⟩

/-- No line break is left between double quotes. -/
theorem doubleQuotedChar_unbroken (c : Char) : ∀ d ∈ doubleQuotedChar c, isBreak d = false := by
  have hletters : ∀ e ∈ shortEscapes, isBreak e.2 = false := by decide
  have hescape {letter : Char} (hletter : isBreak letter = false) {rest : List Char}
      (hrest : ∀ d ∈ rest, isBreak d = false) : ∀ d ∈ '\\' :: letter :: rest, isBreak d = false := by
    intro d hd
    rcases List.mem_cons.mp hd with rfl | hd
    · rfl
    rcases List.mem_cons.mp hd with rfl | hd
    · exact hletter
    · exact hrest d hd
  unfold doubleQuotedChar
  split
  · rename_i hplain
    simp only [Bool.and_eq_true, Bool.not_eq_true'] at hplain
    simpa using hplain.1.1.2
  · split
    · rename_i letter hlookup
      obtain ⟨before, after, hshort, -⟩ := List.lookup_eq_some_iff.mp hlookup
      exact hescape (hletters (c.toNat, letter) (by simp [hshort])) (by simp)
    · split_ifs
      · exact hescape rfl (hexDigits_unbroken 2 _)
      · exact hescape rfl (hexDigits_unbroken 4 _)
      · exact hescape rfl (hexDigits_unbroken 8 _)

/-- A text on one line is written on one line, and quotes bring no line break along. -/
theorem isUnbroken_render {s : String} (h : IsUnbroken s) (indent : Nat) :
    IsUnbroken (render indent s) := by
  rcases render_cases h indent with ⟨hplain, -, -⟩ | hquoted | hquoted
  · rwa [hplain]
  · refine quoted_unbroken hquoted rfl fun c hc d hd => ?_
    rw [singleQuotedChar] at hd
    split at hd <;> simp at hd
    · rw [hd]
      rfl
    · rw [hd]
      exact h c hc
  · exact quoted_unbroken hquoted rfl fun c _ => doubleQuotedChar_unbroken c

end YamlScalar

end AccessLayer
