import AccessLayer.Emitter
import AccessLayer.Proofs.Schema.Occurrence
import AccessLayer.Schema.Reading
import Mathlib.Data.List.InsertIdx

namespace AccessLayer

namespace Block

/-- The whole text and what stands behind each of its blocks. -/
def tails (cs : List Char) : List (List Char) := cs :: (occurrences cs).map Prod.snd

/-- The text without its `i`th block and without what stands between that block and the end of the
    block before. -/
def withoutBlock (cs : List Char) (i : Nat) : List Char :=
  match (tails cs)[i]?, (tails cs)[i + 1]? with
  | some start, some rest => cs.take (cs.length - start.length) ++ rest
  | _, _ => cs

/-- A text can be cut behind each of its blocks: the part before the cut ends with a block and has
    the blocks up to there. -/
theorem exists_cut (cs : List Char) (i : Nat) (hi : i ≤ (occurrences cs).length) :
    ∃ before rest, (tails cs)[i]? = some rest ∧ cs = before ++ rest ∧
      (before = [] ∨ EndsWithBlock before) ∧ (all before).length = i := by
  have hnil : (all []).length = 0 := by rw [all_eq_map_occurrences, occurrences_nil]; rfl
  fun_induction occurrences cs generalizing i with
  | case1 cs b rest hfront ih =>
    cases i with
    | zero => exact ⟨[], cs, rfl, rfl, Or.inl rfl, hnil⟩
    | succ i =>
      obtain ⟨before, behind, htail, rfl, hends, hcount⟩ := ih i (by simpa using hi)
      obtain ⟨text, rfl, htext⟩ := exists_block_text hfront
      have hbefore := atFront_append htext before
      refine ⟨text ++ before, behind, ?_, by simp, Or.inr ?_, ?_⟩
      · rw [← htail, tails, occurrences_of_some hfront]
        rfl
      · exact (endsWithBlock_of_some hbefore).mpr hends
      · rw [all_eq_map_occurrences, occurrences_of_some hbefore]
        simpa [all_eq_map_occurrences] using hcount
  | case2 hfront =>
    obtain rfl : i = 0 := by simpa using hi
    exact ⟨[], [], rfl, rfl, Or.inl rfl, hnil⟩
  | case3 c rest hfront ih =>
    cases i with
    | zero => exact ⟨[], c :: rest, rfl, rfl, Or.inl rfl, hnil⟩
    | succ i =>
      obtain ⟨before, behind, htail, rfl, hends, hcount⟩ := ih (i + 1) hi
      have hne : before ≠ [] := by
        rintro rfl
        omega
      have hnone : atFront? (c :: before) = none := by
        by_contra hsome
        obtain ⟨⟨b, inner⟩, hfound⟩ := Option.ne_none_iff_exists'.mp hsome
        have hmore := atFront_append hfound behind
        rw [List.cons_append, hfront] at hmore
        cases hmore
      refine ⟨c :: before, behind, ?_, rfl, Or.inr ?_, ?_⟩
      · rw [← htail, tails, occurrences_of_none hfront]
        rfl
      · exact (endsWithBlock_of_none hnone).mpr (hends.resolve_left hne)
      · rw [all_eq_map_occurrences, occurrences_of_none hnone, ← all_eq_map_occurrences]
        exact hcount

/-- Taking a block out takes out nothing else. -/
theorem all_withoutBlock (cs : List Char) (i : Nat) (hi : i < (occurrences cs).length) :
    all (withoutBlock cs i) = (all cs).eraseIdx i := by
  obtain ⟨before, start, hstart, hcs, hends, hcount⟩ := exists_cut cs i (by omega)
  obtain ⟨upTo, rest, hrest, hcs', hends', hcount'⟩ := exists_cut cs (i + 1) (by omega)
  have hbefore : cs.take (cs.length - start.length) = before := by
    rw [hcs, List.length_append, Nat.add_sub_cancel, List.take_left]
  have htake : (all cs).take i = all before := by
    rw [hcs, all_append hends, ← hcount, List.take_left]
  have hdrop : (all cs).drop (i + 1) = all rest := by
    rw [hcs', all_append hends', ← hcount', List.drop_left]
  simp only [withoutBlock, hstart, hrest]
  rw [hbefore, all_append hends, List.eraseIdx_eq_take_drop_succ, htake, hdrop]

end Block

open Block

/-- Reading is compositional at the end of a block, and each block contributes one table that can be
    taken out alone: the other tables stay, and so do the artifacts that any language makes of them.
    So texts that end with a block compose, and a block can be taken out without a trace in the
    other tables or in what is made from them. -/
theorem readSchema_of_independent_blocks :
    (∀ text : String, readSchema text = (occurrences text.toList).map fun o => o.1.table) ∧
    (∀ a b : String, (a = "" ∨ EndsWithBlock a.toList) →
      readSchema (a ++ b) = readSchema a ++ readSchema b) ∧
    ∀ (text : String) (i : Nat), i < (occurrences text.toList).length →
      readSchema (String.ofList (withoutBlock text.toList i)) = (readSchema text).eraseIdx i ∧
      ∀ (l : Language) (service : String),
        (readSchema (String.ofList (withoutBlock text.toList i))).map
            (Emitter.builtIn l service).emitAll =
          ((readSchema text).map (Emitter.builtIn l service).emitAll).eraseIdx i := by
  refine ⟨?_, ?_, ?_⟩
  · intro text
    rw [readSchema, all_eq_map_occurrences, List.map_map]
    rfl
  · intro a b hends
    have hseam : a.toList = [] ∨ EndsWithBlock a.toList := by
      rcases hends with rfl | hends
      · exact Or.inl rfl
      · exact Or.inr hends
    rw [readSchema, String.toList_append, all_append hseam, List.map_append]
    rfl
  · intro text i hi
    have hread : readSchema (String.ofList (withoutBlock text.toList i)) =
        (readSchema text).eraseIdx i := by
      rw [readSchema, String.toList_ofList, all_withoutBlock _ _ hi, ← List.eraseIdx_map]
      rfl
    refine ⟨hread, ?_⟩
    intro l service
    rw [hread, List.eraseIdx_map]

/-- Text between the blocks does not matter, and the second of two blocks leaves the first as it
    is. -/
theorem readSchema_of_two_blocks :
    EndsWithBlock "; CREATE TABLE a (id UUID) ;".toList ∧
    readSchema ("; CREATE TABLE a (id UUID) ;" ++ " x create table b (n INT);") =
      readSchema "; CREATE TABLE a (id UUID) ;" ++ readSchema " x create table b (n INT);" ∧
    1 < (occurrences "; CREATE TABLE a (id UUID) ; x create table b (n INT);".toList).length ∧
    readSchema (String.ofList
        (withoutBlock "; CREATE TABLE a (id UUID) ; x create table b (n INT);".toList 1)) =
      (readSchema "; CREATE TABLE a (id UUID) ; x create table b (n INT);").eraseIdx 1 := by
  have hfirst : occurrences "; CREATE TABLE a (id UUID) ;".toList =
      [(⟨['a'], "id UUID".toList⟩, [])] := by
    change occurrences (';' :: ' ' :: "CREATE TABLE a (id UUID) ;".toList) = _
    have hfront : atFront? "CREATE TABLE a (id UUID) ;".toList =
        some (⟨['a'], "id UUID".toList⟩, []) := by decide
    rw [occurrences_of_none (by decide), occurrences_of_none (by decide),
      occurrences_of_some hfront, occurrences_nil]
  have hsecond : occurrences " x create table b (n INT);".toList =
      [(⟨['b'], "n INT".toList⟩, [])] := by
    change occurrences (' ' :: 'x' :: ' ' :: "create table b (n INT);".toList) = _
    have hfront : atFront? "create table b (n INT);".toList =
        some (⟨['b'], "n INT".toList⟩, []) := by decide
    rw [occurrences_of_none (by decide), occurrences_of_none (by decide),
      occurrences_of_none (by decide), occurrences_of_some hfront, occurrences_nil]
  have hends : EndsWithBlock "; CREATE TABLE a (id UUID) ;".toList :=
    ⟨⟨['a'], "id UUID".toList⟩, by rw [hfirst]; rfl⟩
  have hcount : 1 <
      (occurrences "; CREATE TABLE a (id UUID) ; x create table b (n INT);".toList).length := by
    change 1 < (occurrences
      ("; CREATE TABLE a (id UUID) ;".toList ++ " x create table b (n INT);".toList)).length
    rw [occurrences_append (Or.inr hends), hfirst, hsecond]
    decide
  exact ⟨hends, readSchema_of_independent_blocks.2.1 _ _ (Or.inr hends), hcount,
    (readSchema_of_independent_blocks.2.2 _ 1 hcount).1⟩

end AccessLayer
