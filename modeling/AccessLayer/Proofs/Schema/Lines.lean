import AccessLayer.Proofs.Schema.Origin
import AccessLayer.Proofs.Schema.Section
import Mathlib.Data.List.InsertIdx

namespace AccessLayer

open Text

/-- The column without the mark of the key. -/
def Column.unmarked (c : Column) : Column := { c with marked := false }

/-- Once a table has its key, no column is marked. -/
theorem keepFirstKey_true (cs : List Column) : keepFirstKey true cs = cs.map Column.unmarked := by
  induction cs with
  | nil => rfl
  | cons c cs ih => simp [keepFirstKey, ih, Column.unmarked]

/-- Behind some columns the search for the key goes on as they leave it. -/
theorem keepFirstKey_append (keyed : Bool) (cs ds : List Column) :
    keepFirstKey keyed (cs ++ ds) =
      keepFirstKey keyed cs ++ keepFirstKey (keyed || cs.any (·.marked)) ds := by
  induction cs generalizing keyed with
  | nil => simp [keepFirstKey]
  | cons c cs ih => simp [keepFirstKey, ih, Bool.or_assoc]

/-- A key is lost only to an earlier one. -/
theorem any_marked_keepFirstKey (cs : List Column) :
    (keepFirstKey false cs).any (·.marked) = cs.any (·.marked) := by
  induction cs with
  | nil => rfl
  | cons c cs ih =>
    rw [keepFirstKey, List.any_cons, List.any_cons]
    cases hc : c.marked with
    | true => simp
    | false => simpa using ih

private theorem map_unmarked_keepFirstKey (keyed : Bool) (cs : List Column) :
    (keepFirstKey keyed cs).map Column.unmarked = cs.map Column.unmarked := by
  induction cs generalizing keyed with
  | nil => rfl
  | cons c cs ih => rw [keepFirstKey, List.map_cons, List.map_cons, ih, Column.unmarked, Column.unmarked]

namespace Fragment

/-- The columns that the fragments of a section declare, before one of them is made the key. -/
def declarations (body : List Char) : List Column := (ofBody body).filterMap declaration?

/-- What is declared before a line break and behind it does not depend on each other. -/
theorem declarations_append_newline (before after : List Char) :
    declarations (before ++ '\n' :: after) = declarations before ++ declarations after := by
  rw [declarations, ofBody_append_newline, List.filterMap_append, declarations, declarations]

/-- What a section declares depends on its fragments alone. -/
theorem declarations_eq_nil_iff {body : List Char} :
    declarations body = [] ↔ ∀ f ∈ ofBody body, ¬ Survives f := by
  rw [declarations, List.filterMap_eq_nil_iff]
  refine forall₂_congr fun f _ => ?_
  rw [← declaration?_isSome_iff, Bool.not_eq_true, Option.isSome_eq_false_iff, Option.isNone_iff_eq_none]

end Fragment

open Fragment

private theorem readColumns_eq_nil_iff {body : List Char} :
    readColumns body = [] ↔ declarations body = [] := by
  rw [← List.length_eq_zero_iff, ← List.length_eq_zero_iff, readColumns, length_keepFirstKey,
    declarations]

/-- What crosses a line break is whether the table has its key already. -/
theorem readColumns_append_newline (before after : List Char) :
    readColumns (before ++ '\n' :: after) = readColumns before ++
      if (readColumns before).any (·.marked) then (readColumns after).map Column.unmarked
      else readColumns after := by
  have hread (body : List Char) : readColumns body = keepFirstKey false (declarations body) := rfl
  rw [hread, declarations_append_newline, keepFirstKey_append, Bool.false_or, hread before,
    any_marked_keepFirstKey, hread after, map_unmarked_keepFirstKey]
  cases (declarations before).any (·.marked) with
  | true => rw [keepFirstKey_true, if_pos rfl]
  | false => rw [if_neg Bool.false_ne_true]

/-- The lines of a column section, without their line breaks. -/
def sectionLines (body : List Char) : List (List Char) := pieces (· == '\n') body

/-- The section of some lines. -/
def ofLines (lines : List (List Char)) : List Char := ['\n'].intercalate lines

/-- The section with one more line, which becomes its `i`-th. -/
def withLine (body : List Char) (i : Nat) (line : List Char) : List Char :=
  ofLines ((sectionLines body).insertIdx i line)

/-- The section without its `i`-th line. -/
def withoutLine (body : List Char) (i : Nat) : List Char := ofLines ((sectionLines body).eraseIdx i)

private theorem ofLines_sectionLines (body : List Char) : ofLines (sectionLines body) = body := by
  rw [ofLines, sectionLines, pieces_eq_splitOnP, ← List.splitOn_eq_splitOnP, List.intercalate_splitOn]

private theorem declarations_ofLines (lines : List (List Char)) :
    declarations (ofLines lines) = lines.flatMap declarations := by
  induction lines with
  | nil => rfl
  | cons line lines ih =>
    cases lines with
    | nil => simp [ofLines]
    | cons next lines =>
      rw [ofLines, List.intercalate_cons_cons, List.append_assoc, List.singleton_append,
        declarations_append_newline, ← ofLines, ih]
      rfl

/-- Sections whose lines declare the same columns have the same columns. -/
theorem readColumns_ofLines_congr {lines lines' : List (List Char)}
    (h : lines.flatMap declarations = lines'.flatMap declarations) :
    readColumns (ofLines lines) = readColumns (ofLines lines') := by
  have hread (body : List Char) : readColumns body = keepFirstKey false (declarations body) := rfl
  rw [hread, hread, declarations_ofLines, declarations_ofLines, h]

private theorem flatMap_insertIdx {α β : Type} {f : α → List β} {a : α} (h : f a = [])
    (as : List α) (i : Nat) : (as.insertIdx i a).flatMap f = as.flatMap f := by
  induction as generalizing i with
  | nil => cases i <;> simp [h]
  | cons b as ih =>
    cases i with
    | zero => simp [h]
    | succ i => rw [List.insertIdx_succ_cons, List.flatMap_cons, ih, List.flatMap_cons]

private theorem flatMap_eraseIdx {α β : Type} {f : α → List β} {a : α} (h : f a = [])
    {as : List α} {i : Nat} (ha : as[i]? = some a) : (as.eraseIdx i).flatMap f = as.flatMap f := by
  induction as generalizing i with
  | nil => rfl
  | cons b as ih =>
    cases i with
    | zero =>
      obtain rfl : b = a := by simpa using ha
      simp [h]
    | succ i => rw [List.eraseIdx_cons_succ, List.flatMap_cons, ih ha, List.flatMap_cons]

/-- A line that declares no column may come, wherever it is put. -/
theorem readColumns_withLine {line : List Char} (h : readColumns line = []) (body : List Char)
    (i : Nat) : readColumns (withLine body i line) = readColumns body := by
  have hflat := flatMap_insertIdx (readColumns_eq_nil_iff.mp h) (sectionLines body) i
  rw [withLine, readColumns_ofLines_congr hflat, ofLines_sectionLines]

/-- A line that declares no column may go, wherever it stands. -/
theorem readColumns_withoutLine {body line : List Char} {i : Nat}
    (hline : (sectionLines body)[i]? = some line) (h : readColumns line = []) :
    readColumns (withoutLine body i) = readColumns body := by
  have hflat := flatMap_eraseIdx (readColumns_eq_nil_iff.mp h) hline
  rw [withoutLine, readColumns_ofLines_congr hflat, ofLines_sectionLines]

/-- One word at most, with blanks around it. -/
def IsOneWord (cs : List Char) : Prop :=
  ∃ gap word tail, cs = gap ++ (word ++ tail) ∧ IsGap gap ∧ IsSolid word ∧ IsGap tail

private theorem prefix_append_cases {front cs ds : List Char} (h : front <+: cs ++ ds) :
    front <+: cs ∨ ∃ more, front = cs ++ more ∧ more <+: ds := by
  rcases List.prefix_or_prefix_of_prefix h (List.prefix_append cs ds) with hshort | ⟨more, rfl⟩
  · exact Or.inl hshort
  · exact Or.inr ⟨more, rfl, (List.prefix_append_right_inj cs).mp h⟩

private theorem IsOneWord.of_prefix {cs front : List Char} (h : IsOneWord cs)
    (hfront : front <+: cs) :
    IsOneWord front := by
  obtain ⟨gap, word, tail, rfl, hgap, hword, htail⟩ := h
  have hnone : IsGap [] := IsGap.nil
  rcases prefix_append_cases hfront with hshort | ⟨middle, rfl, hmiddle⟩
  · exact ⟨front, [], [], by simp, fun c hc => hgap c (hshort.subset hc), nofun, hnone⟩
  · rcases prefix_append_cases hmiddle with hshort | ⟨last, rfl, hlast⟩
    · exact ⟨gap, middle, [], by simp, hgap, fun c hc => hword c (hshort.subset hc), hnone⟩
    · exact ⟨gap, word, last, rfl, hgap, hword, fun c hc => htail c (hlast.subset hc)⟩

private theorem IsOneWord.reverse {cs : List Char} (h : IsOneWord cs) : IsOneWord cs.reverse := by
  obtain ⟨gap, word, tail, rfl, hgap, hword, htail⟩ := h
  refine ⟨tail.reverse, word.reverse, gap.reverse, by simp, fun c hc => htail c (by simpa using hc),
    fun c hc => hword c (by simpa using hc), fun c hc => hgap c (by simpa using hc)⟩

private theorem IsOneWord.of_infix {cs part : List Char} (h : IsOneWord cs) (hpart : part <:+: cs) :
    IsOneWord part := by
  obtain ⟨front, tail, rfl⟩ := hpart
  have hfront : IsOneWord (front ++ part) := h.of_prefix (List.prefix_append _ _)
  have hback := hfront.reverse.of_prefix (List.reverse_prefix.mpr (List.suffix_append front part))
  simpa using hback.reverse

private theorem IsOneWord.length_words {cs : List Char} (h : IsOneWord cs) :
    (words cs).length ≤ 1 := by
  obtain ⟨gap, word, tail, rfl, hgap, hword, htail⟩ := h
  rw [words, solidPieces_append_separators hgap]
  have hblank := solidPieces_append_separators htail []
  rw [List.append_nil] at hblank
  by_cases hne : word = []
  · rw [hne, List.nil_append, hblank]
    exact Nat.zero_le 1
  · rw [solidPieces_append hne hword fun c hc => htail c (List.mem_of_mem_head? hc), hblank]
    exact Nat.le_refl 1

/-- Lines that declare no column: blanks, a comment, one word, and a clause about the table. -/
inductive IsIdle : List Char → Prop
  | blank {line : List Char} (hline : IsGap line) : IsIdle line
  | comment {gap text : List Char} (hgap : IsGap gap) (htext : '\n' ∉ text) :
      IsIdle (gap ++ '-' :: '-' :: text)
  | word {line : List Char} (hline : IsOneWord line) (hsingle : '\n' ∉ line) : IsIdle line
  | clause {line : List Char} {f : Fragment} {ks : List String} (hline : ofBody line = [f])
      (hks : ks ∈ clauses) (hopens : Opens ks f) : IsIdle line

private theorem infix_of_mem_ofBody {line : List Char} (hline : '\n' ∉ line) {f : Fragment}
    (hf : f ∈ ofBody line) : f <:+: line := by
  rw [ofBody, pieces_of_free (newline_free hline), List.flatMap_singleton] at hf
  obtain ⟨part, hpart, rfl⟩ := List.mem_map.mp (List.mem_filter.mp hf).1
  have htrim : trim part <:+: part :=
    (prefix_dropEnd isBlank _).isInfix.trans (List.dropWhile_suffix isBlank).isInfix
  exact (htrim.trans ((areParts_cut 0 _).within hpart)).trans (prefix_beforeComment line).isInfix

/-- A blank line, a comment, a single word and a clause about the table declare no column. -/
theorem readColumns_of_isIdle {line : List Char} (h : IsIdle line) : readColumns line = [] := by
  rw [readColumns_eq_nil_iff, declarations_eq_nil_iff]
  intro f hf hsurvives
  cases h with
  | blank hline =>
    rw [ofBody_gap hline] at hf
    cases hf
  | @comment gap text hgap htext =>
    have hsingle : '\n' ∉ '-' :: '-' :: text := by simp [htext]
    rw [ofBody_append_gap hgap, ofBody, pieces_of_free (newline_free hsingle)] at hf
    cases hf
  | word hline hsingle =>
    have hwords : IsOneWord (dropEnd (· == ',') f) :=
      hline.of_infix ((prefix_dropEnd _ f).isInfix.trans (infix_of_mem_ofBody hsingle hf))
    have hlength := hwords.length_words
    have htwo : 2 ≤ (words (dropEnd (· == ',') f)).length := hsurvives.2
    omega
  | clause hline hks hopens =>
    rw [hline, List.mem_singleton] at hf
    subst hf
    exact hsurvives.1 _ hks hopens

/-- Column sections are put together at line breaks: the columns of the first are followed by those
    of the second, which keep a mark of the key if the first has no key. A line that yields no
    column, as an idle one does, can be put in and taken out anywhere. -/
theorem readColumns_line_by_line :
    (∀ before after, readColumns (before ++ '\n' :: after) = readColumns before ++
      if (readColumns before).any (·.marked) then (readColumns after).map Column.unmarked
      else readColumns after) ∧
    (∀ line, IsIdle line → readColumns line = []) ∧
    (∀ body i line, readColumns line = [] → readColumns (withLine body i line) = readColumns body) ∧
    ∀ body i line, (sectionLines body)[i]? = some line → readColumns line = [] →
      readColumns (withoutLine body i) = readColumns body :=
  ⟨readColumns_append_newline, fun _ => readColumns_of_isIdle,
    fun body i _ h => readColumns_withLine h body i, fun _ _ _ => readColumns_withoutLine⟩

/-- A clause about a table on a line of its own. -/
def uniqueLine : List Char := "  UNIQUE (id, email),".toList

/-- A section with a clause about the table between two columns that are both marked. -/
def memberSection : List Char :=
  "id UUID PRIMARY KEY,\n".toList ++ uniqueLine ++ "\nemail TEXT PRIMARY KEY".toList

/-- The clause stands between the columns. It may go, and it may come once more behind them. -/
theorem readColumns_line_by_line_members :
    IsIdle uniqueLine ∧ readColumns uniqueLine = [] ∧
      (sectionLines memberSection)[1]? = some uniqueLine ∧
      readColumns (withoutLine memberSection 1) = readColumns memberSection ∧
      readColumns (withLine memberSection 3 uniqueLine) = readColumns memberSection ∧
      readColumns memberSection =
        [⟨"id", .uuid, true, true, none⟩, ⟨"email", .text, true, false, none⟩] := by
  obtain ⟨happend, hidle, hwith, hwithout⟩ := readColumns_line_by_line
  have hclause : IsIdle uniqueLine := by
    have hfragment : ofBody uniqueLine = ["UNIQUE (id, email)".toList] := by decide +kernel
    have hopens : Opens ["UNIQUE"] "UNIQUE (id, email)".toList :=
      ⟨[], "UNIQUE".toList, " (id, email)".toList, by decide, nofun, by decide,
        by simp [Parts]; decide, trivial⟩
    exact .clause hfragment (by decide) hopens
  have hnone := hidle uniqueLine hclause
  have hthere : (sectionLines memberSection)[1]? = some uniqueLine := by decide +kernel
  have hfirst := hwithout memberSection 1 uniqueLine hthere hnone
  refine ⟨hclause, hnone, hthere, hfirst, hwith memberSection 3 uniqueLine hnone, ?_⟩
  have hsplit : withoutLine memberSection 1 =
      "id UUID PRIMARY KEY,".toList ++ '\n' :: "email TEXT PRIMARY KEY".toList := by decide +kernel
  rw [← hfirst, hsplit, happend]
  decide +kernel

end AccessLayer
