import AccessLayer.Language.Names
import AccessLayer.Proofs.Text.Case
import AccessLayer.Proofs.Text.Words

namespace AccessLayer

open Text

namespace Name

/-- The letters of a word with a mark on the first, if that has an upper case form. -/
def markFirst : List Char → List (Char × Bool)
  | [] => []
  | c :: cs => (c.toLower, c.isAlpha) :: cs.map fun d => (d.toLower, false)

/-- What is left of a name when underscores and the case of letters are forgotten: its characters in
    lower case, with a mark on each letter that begins a word. -/
def skeleton (cs : List Char) : List (Char × Bool) := (pieces (· == '_') cs).flatMap markFirst

/-- All characters are ASCII ones, whose cases are told one by one. -/
def IsAscii (cs : List Char) : Prop := ∀ c ∈ cs, c.toNat < 128

instance : DecidablePred IsAscii := fun cs => List.decidableBAll (fun c : Char => c.toNat < 128) cs

set_option maxRecDepth 4000 in
private theorem case_of_ascii : ∀ c : Char, c.toNat < 128 →
    c.toUpper.toLower = c.toLower ∧ c.toUpper.isUpper = c.isAlpha ∧ c.toLower.toLower = c.toLower ∧
      c.toLower.isUpper = false ∧
      (if c.isAlpha then c.toLower.toUpper else c.toLower) = c.toUpper :=
  forall_ascii (by decide)

private theorem lowerAfter_of_ascii {cs : List Char} (h : IsAscii cs) (before : List Char) :
    lowerAfter before cs = cs.map Char.toLower := by
  induction cs generalizing before with
  | nil => rfl
  | cons c cs ih =>
    have hc : c.toNat < 128 := h c (by simp)
    have hsigma : c ≠ 'Σ' := by
      rintro rfl
      exact absurd hc (by decide)
    rw [lowerAfter, if_neg hsigma, lowerChar, if_pos hc, ih fun d hd => h d (by simp [hd])]
    rfl

/-- ASCII texts are put in lower case character by character. -/
theorem lower_of_ascii {cs : List Char} (h : IsAscii cs) : lower cs = cs.map Char.toLower :=
  lowerAfter_of_ascii h []

/-- An ASCII word keeps its length when it is capitalized. -/
theorem capitalize_of_ascii {c : Char} {cs : List Char} (h : IsAscii (c :: cs)) :
    capitalize (c :: cs) = c.toUpper :: cs.map Char.toLower := by
  have hc : c.toNat < 128 := h c (by simp)
  rw [capitalize, upperChar, if_pos hc, lower_of_ascii fun d hd => h d (by simp [hd])]
  rfl

private theorem markFirst_capitalize {cs : List Char} (h : IsAscii cs) :
    (capitalize cs).map (fun c => (c.toLower, c.isUpper)) = markFirst cs ∧
      (markFirst cs).map (fun m => if m.2 then m.1.toUpper else m.1) = capitalize cs := by
  cases cs with
  | nil => exact ⟨rfl, rfl⟩
  | cons c cs =>
    obtain ⟨hlower, hupper, -, -, hback⟩ := case_of_ascii _ (h c (by simp))
    rw [capitalize_of_ascii h, markFirst]
    constructor
    · rw [List.map_cons, List.map_map, hlower, hupper]
      congr 1
      refine List.map_congr_left fun d hd => ?_
      obtain ⟨-, -, hlower', hupper', -⟩ := case_of_ascii _ (h d (by simp [hd]))
      simp only [Function.comp_apply, hlower', hupper']
    · rw [List.map_cons, List.map_map, hback]
      rfl

/-- The words of an ASCII name are ASCII. -/
theorem IsAscii.of_mem_pieces {cs p : List Char} (h : IsAscii cs)
    (hp : p ∈ pieces (· == '_') cs) : IsAscii p :=
  fun _ hc => h _ (mem_of_mem_pieces hp hc).1

/-- The capitals of a type's name are the marks of the skeleton. -/
theorem map_typeChars {cs : List Char} (h : IsAscii cs) :
    (typeChars cs).map (fun c => (c.toLower, c.isUpper)) = skeleton cs := by
  rw [typeChars, skeleton, List.map_flatMap]
  exact List.flatMap_congr fun p hp => (markFirst_capitalize (h.of_mem_pieces hp)).1

/-- A type's name is spelled from the skeleton. -/
theorem map_skeleton {cs : List Char} (h : IsAscii cs) :
    (skeleton cs).map (fun m => if m.2 then m.1.toUpper else m.1) = typeChars cs := by
  rw [typeChars, skeleton, List.map_flatMap]
  exact List.flatMap_congr fun p hp => (markFirst_capitalize (h.of_mem_pieces hp)).2

/-- Names in ASCII are exported alike exactly when nothing but underscores and the case of letters
    tells them apart, and the same letters begin a word. -/
theorem typeName_eq_iff {a b : String} (ha : IsAscii a.toList) (hb : IsAscii b.toList) :
    typeName a = typeName b ↔ skeleton a.toList = skeleton b.toList := by
  unfold typeName
  rw [String.ofList_inj]
  constructor
  · intro h
    rw [← map_typeChars ha, ← map_typeChars hb, h]
  · intro h
    rw [← map_skeleton ha, ← map_skeleton hb, h]

/-- A word of plain snake case: a small letter, and small letters and digits behind it. -/
def IsPlainWord : List Char → Prop
  | [] => False
  | c :: cs => c.isLower = true ∧ ∀ d ∈ cs, d.isLower = true ∨ d.isDigit = true

instance : DecidablePred IsPlainWord
  | [] => inferInstanceAs (Decidable False)
  | _ :: cs =>
    @instDecidableAnd _ _ _
      (List.decidableBAll (fun d : Char => d.isLower = true ∨ d.isDigit = true) cs)

/-- Plain words with single underscores between them. -/
def IsSnake (cs : List Char) : Prop := ∀ p ∈ pieces (· == '_') cs, IsPlainWord p

instance : DecidablePred IsSnake := fun cs => List.decidableBAll IsPlainWord (pieces (· == '_') cs)

private theorem isAscii_of_small {c : Char} (h : c.isLower = true ∨ c.isDigit = true) :
    c.toNat < 128 := by
  have hlast : c.val ≤ 'z'.val ∨ c.val ≤ '9'.val :=
    h.imp (fun hlower => of_decide_eq_true (Bool.and_eq_true_iff.mp hlower).2)
      fun hdigit => of_decide_eq_true (Bool.and_eq_true_iff.mp hdigit).2
  rcases hlast with hle | hle
  · exact Nat.lt_of_le_of_lt (UInt32.le_iff_toNat_le.mp hle) (by decide)
  · exact Nat.lt_of_le_of_lt (UInt32.le_iff_toNat_le.mp hle) (by decide)

set_option maxRecDepth 4000 in
private theorem small_of_ascii : ∀ c : Char, c.toNat < 128 →
    (c.isLower = true → c.isAlpha = true) ∧
      (c.isLower = true ∨ c.isDigit = true → c.toLower = c) :=
  forall_ascii (by decide)

private theorem markFirst_of_plain {c : Char} {cs : List Char} (h : IsPlainWord (c :: cs)) :
    markFirst (c :: cs) = (c, true) :: cs.map fun d => (d, false) := by
  obtain ⟨hc, hcs⟩ := h
  obtain ⟨halpha, hlower⟩ := small_of_ascii c (isAscii_of_small (Or.inl hc))
  rw [markFirst, hlower (Or.inl hc), halpha hc]
  congr 1
  refine List.map_congr_left fun d hd => ?_
  rw [(small_of_ascii d (isAscii_of_small (hcs d hd))).2 (hcs d hd)]

private theorem IsPlainWord.exists_cons {p : List Char} (h : IsPlainWord p) :
    ∃ c cs, p = c :: cs := by
  cases p with
  | nil => exact h.elim
  | cons c cs => exact ⟨c, cs, rfl⟩

private theorem takeWhile_unmarked (cs : List Char) {more : List (List Char)}
    (hmore : ∀ p ∈ more, IsPlainWord p) :
    ((cs.map fun d => (d, false)) ++ more.flatMap markFirst).takeWhile (fun m => !m.2) =
      cs.map fun d => (d, false) := by
  have hnone : (more.flatMap markFirst).takeWhile (fun m => !m.2) = [] := by
    cases more with
    | nil => rfl
    | cons p more =>
      have hp := hmore p (by simp)
      obtain ⟨c, cs, rfl⟩ := hp.exists_cons
      rw [List.flatMap_cons, markFirst_of_plain hp]
      rfl
  rw [List.takeWhile_append_of_pos (by simp), hnone, List.append_nil]

private theorem eq_and_eq_of_markFirst_append_eq {p q : List Char} {ps qs : List (List Char)}
    (hp : IsPlainWord p) (hq : IsPlainWord q) (hps : ∀ p ∈ ps, IsPlainWord p)
    (hqs : ∀ q ∈ qs, IsPlainWord q)
    (h : markFirst p ++ ps.flatMap markFirst = markFirst q ++ qs.flatMap markFirst) :
    p = q ∧ ps.flatMap markFirst = qs.flatMap markFirst := by
  obtain ⟨c, cs, rfl⟩ := hp.exists_cons
  obtain ⟨d, ds, rfl⟩ := hq.exists_cons
  rw [markFirst_of_plain hp, markFirst_of_plain hq, List.cons_append, List.cons_append] at h
  obtain ⟨hfirst, hrest⟩ := List.cons.inj h
  have hword := congrArg (List.takeWhile fun m => !m.2) hrest
  rw [takeWhile_unmarked cs hps, takeWhile_unmarked ds hqs] at hword
  rw [hword] at hrest
  have hletters : cs = ds :=
    List.map_injective_iff.mpr (fun _ _ hsame => congrArg Prod.fst hsame) hword
  have hletter : c = d := congrArg Prod.fst hfirst
  rw [hletter, hletters]
  exact ⟨rfl, List.append_cancel_left hrest⟩

private theorem eq_of_flatMap_markFirst_eq {ps qs : List (List Char)}
    (hps : ∀ p ∈ ps, IsPlainWord p) (hqs : ∀ q ∈ qs, IsPlainWord q)
    (h : ps.flatMap markFirst = qs.flatMap markFirst) : ps = qs := by
  have hsolid {p : List Char} (hp : IsPlainWord p) (more : List (Char × Bool)) :
      markFirst p ++ more ≠ [] := by
    obtain ⟨c, cs, rfl⟩ := hp.exists_cons
    exact List.cons_ne_nil _ _
  induction ps generalizing qs with
  | nil =>
    cases qs with
    | nil => rfl
    | cons q qs => exact absurd h.symm (hsolid (hqs q (by simp)) _)
  | cons p ps ih =>
    cases qs with
    | nil => exact absurd h (hsolid (hps p (by simp)) _)
    | cons q qs =>
      have hps' : ∀ p ∈ ps, IsPlainWord p := fun p hp => hps p (by simp [hp])
      have hqs' : ∀ q ∈ qs, IsPlainWord q := fun q hq => hqs q (by simp [hq])
      obtain ⟨rfl, hrest⟩ :=
        eq_and_eq_of_markFirst_append_eq (hps p (by simp)) (hqs q (by simp)) hps' hqs' h
      rw [ih hps' hqs' hrest]

private theorem IsSnake.isAscii {cs : List Char} (h : IsSnake cs) : IsAscii cs := by
  intro c hc
  by_cases hsep : c = '_'
  · subst hsep
    decide
  · obtain ⟨p, hp, hmem⟩ := @exists_mem_pieces_of_mem (· == '_') cs c hc (by simpa using hsep)
    have hplain := h p hp
    obtain ⟨d, ds, rfl⟩ := hplain.exists_cons
    rcases List.mem_cons.mp hmem with rfl | htail
    · exact isAscii_of_small (Or.inl hplain.1)
    · exact isAscii_of_small (hplain.2 c htail)

/-- Plain snake case can be read off the name of the type. The first of some plain words, and what
    is left of the others, can be read off the marked letters of all. -/
theorem typeName_injective_of_snake {a b : String} (ha : IsSnake a.toList) (hb : IsSnake b.toList)
    (h : typeName a = typeName b) : a = b := by
  have hskeleton := (typeName_eq_iff ha.isAscii hb.isAscii).mp h
  have hpieces := eq_of_flatMap_markFirst_eq ha hb hskeleton
  exact String.toList_inj.mp (pieces_beq_injective '_' hpieces)

/-- The name of a type does not begin with a small ASCII letter. -/
theorem head_typeName {table : String} {c : Char} (h : (typeName table).toList.head? = some c) :
    inSpans smallSpans c = false := by
  rw [typeName, String.toList_ofList, typeChars] at h
  generalize pieces (· == '_') table.toList = ps at h
  induction ps with
  | nil => cases h
  | cons p ps ih =>
    cases p with
    | nil => exact ih h
    | cons d ds =>
      obtain ⟨first, rest, hupper⟩ := List.exists_cons_of_ne_nil (upperChar_ne_nil d)
      obtain rfl : first = c := by simpa [capitalize, hupper] using h
      exact no_small_upperChar d first (by simp [hupper])

end Name

namespace Language

variable {l : Language} {a b x : String}

/-- The words that are no identifiers of the language as they stand. -/
def reserved (l : Language) : List String :=
  l.suffixedKeywords ++ if l = rust then rawKeywords else []

/-- The field of `a` is called what another column `b` is called, or fields are exported and both
    get one name. -/
def NameClash (l : Language) (a b : String) : Prop :=
  a ∈ l.suffixedKeywords ∧ b = a ++ "_" ∨ l = rust ∧ a ∈ rawKeywords ∧ b = "r#" ++ a ∨
    l = go ∧ a ≠ b ∧ Name.typeName a = Name.typeName b

instance (l : Language) (a b : String) : Decidable (l.NameClash a b) :=
  inferInstanceAs (Decidable (_ ∨ _ ∨ _))

/-- How a column is spelled as a field where fields are not exported. -/
inductive Spelled (l : Language) (a : String) : String → Prop where
  | plain (hfree : a ∉ l.reserved) : Spelled l a a
  | suffixed (hword : a ∈ l.suffixedKeywords) : Spelled l a (a ++ "_")
  | raw (hrust : l = rust) (hword : a ∈ rawKeywords) : Spelled l a ("r#" ++ a)

/-- Where fields are not exported, every identifier is the column's name as it stands or escaped in
    one way. -/
theorem spelled_fieldName (hl : l ≠ go) (a : String) : Spelled l a (l.fieldName a) := by
  by_cases hword : a ∈ l.suffixedKeywords
  · have hname : l.fieldName a = a ++ "_" := by
      cases l <;> simp_all [fieldName]
    rw [hname]
    exact .suffixed hword
  · by_cases hraw : l = rust ∧ a ∈ rawKeywords
    · obtain ⟨rfl, hraw⟩ := hraw
      have hname : rust.fieldName a = "r#" ++ a := by simp [fieldName, hword, hraw]
      rw [hname]
      exact .raw rfl hraw
    · have hname : l.fieldName a = a := by
        cases l <;> simp_all [fieldName]
      rw [hname]
      refine .plain fun hmem => ?_
      rcases List.mem_append.mp hmem with h | h
      · exact hword h
      · split at h
        · exact hraw ⟨‹_›, h⟩
        · cases h

private theorem reserved_endings : ∀ l ∈ all, ∀ w ∈ l.reserved,
    w.toList.getLast? ≠ some '_' ∧ '#' ∉ w.toList := by
  decide +kernel

private theorem Spelled.not_mem_reserved (h : Spelled l a x) : x ∉ l.reserved := by
  intro hx
  obtain ⟨hlast, hhash⟩ := reserved_endings l (mem_all l) x hx
  cases h with
  | plain hfree => exact hfree hx
  | suffixed _ => exact hlast (by simp)
  | raw _ _ => exact hhash (by simp)

private theorem suffixed_raw_apart : ∀ a ∈ suffixedKeywords rust, a ∉ rawKeywords := by
  decide

/-- A column has one identifier, since no word is escaped in two ways. -/
theorem Spelled.unique {y : String} (h : Spelled l a x) (h' : Spelled l a y) : x = y := by
  have hraw : a ∈ rawKeywords → l = rust → a ∈ l.reserved := by
    rintro hword rfl
    exact List.mem_append_right _ hword
  cases h with
  | plain hfree =>
    cases h' with
    | plain => rfl
    | suffixed hword => exact absurd (List.mem_append_left _ hword) hfree
    | raw hrust hword => exact absurd (hraw hword hrust) hfree
  | suffixed hword =>
    cases h' with
    | plain hfree => exact absurd (List.mem_append_left _ hword) hfree
    | suffixed => rfl
    | raw hrust hother =>
      subst hrust
      exact absurd hother (suffixed_raw_apart a hword)
  | raw hrust hword =>
    cases h' with
    | plain hfree => exact absurd (hraw hword hrust) hfree
    | suffixed hother =>
      subst hrust
      exact absurd hword (suffixed_raw_apart a hother)
    | raw => rfl

private theorem suffixed_ne_raw (hword : a ∈ l.suffixedKeywords) : a ++ "_" ≠ "r#" ++ b := by
  intro h
  have hhash : '#' ∈ (a ++ "_").toList := by simp [h]
  have hfree := (reserved_endings l (mem_all l) a (List.mem_append_left _ hword)).2
  simp [hfree] at hhash

/-- Columns that are spelled alike are the same, or one is the escaped form of the other. -/
theorem Spelled.eq_or_clash (ha : Spelled l a x) (hb : Spelled l b x) :
    a = b ∨ l.NameClash a b ∨ l.NameClash b a := by
  cases ha with
  | plain =>
    cases hb with
    | plain => exact Or.inl rfl
    | suffixed hword => exact Or.inr (Or.inr (Or.inl ⟨hword, rfl⟩))
    | raw hrust hword => exact Or.inr (Or.inr (Or.inr (Or.inl ⟨hrust, hword, rfl⟩)))
  | suffixed hword =>
    generalize hx : a ++ "_" = x at hb
    cases hb with
    | plain => exact Or.inr (Or.inl (Or.inl ⟨hword, hx.symm⟩))
    | suffixed => exact Or.inl ((String.append_left_inj _).mp hx)
    | raw => exact absurd hx (suffixed_ne_raw hword)
  | raw hrust hword =>
    generalize hx : "r#" ++ a = x at hb
    cases hb with
    | plain => exact Or.inr (Or.inl (Or.inr (Or.inl ⟨hrust, hword, hx.symm⟩)))
    | suffixed hother => exact absurd hx.symm (suffixed_ne_raw hother)
    | raw => exact Or.inl ((String.append_right_inj _).mp hx)

/-- Columns that clash get one identifier. -/
theorem fieldName_eq_of_clash (h : l.NameClash a b) : l.fieldName a = l.fieldName b := by
  rcases h with ⟨hword, rfl⟩ | ⟨rfl, hword, rfl⟩ | ⟨rfl, _, hsame⟩
  · have hl : l ≠ go := by
      rintro rfl
      cases hword
    have ha : Spelled l a (a ++ "_") := .suffixed hword
    rw [(spelled_fieldName hl a).unique ha,
      (spelled_fieldName hl (a ++ "_")).unique (.plain ha.not_mem_reserved)]
  · have ha : Spelled rust a ("r#" ++ a) := .raw rfl hword
    rw [(spelled_fieldName (by decide) a).unique ha,
      (spelled_fieldName (by decide) ("r#" ++ a)).unique (.plain ha.not_mem_reserved)]
  · exact hsame

/-- Two columns get one identifier exactly when they are the same or clash. -/
theorem fieldName_eq_iff (l : Language) (a b : String) :
    l.fieldName a = l.fieldName b ↔ a = b ∨ l.NameClash a b ∨ l.NameClash b a := by
  constructor
  · intro h
    by_cases hl : l = go
    · by_cases hsame : a = b
      · exact Or.inl hsame
      · subst hl
        exact Or.inr (Or.inl (Or.inr (Or.inr ⟨rfl, hsame, h⟩)))
    · have hb := spelled_fieldName hl b
      rw [← h] at hb
      exact (spelled_fieldName hl a).eq_or_clash hb
  · rintro (rfl | hclash | hclash)
    · rfl
    · exact fieldName_eq_of_clash hclash
    · exact (fieldName_eq_of_clash hclash).symm

/-- No column clashes with itself. -/
theorem not_nameClash_self (l : Language) (a : String) : ¬ l.NameClash a a := by
  rintro (⟨_, h⟩ | ⟨_, _, h⟩ | ⟨_, hne, _⟩)
  · have hlength := congrArg String.length h
    simp at hlength
  · have hlength := congrArg String.length h
    simp at hlength
  · exact hne rfl

/-- No identifier is a reserved word, as no reserved word ends in an underscore or holds a hash. -/
theorem fieldName_not_mem_reserved (l : Language) (a : String) : l.fieldName a ∉ l.reserved := by
  by_cases hl : l = go
  · subst hl
    exact List.not_mem_nil
  · exact (spelled_fieldName hl a).not_mem_reserved

end Language

end AccessLayer
