import AccessLayer.Proofs.Schema.Occurrence
import AccessLayer.Proofs.Schema.Section
import AccessLayer.Schema.Reading

namespace AccessLayer

namespace LineEnding

open Text Block Fragment

/-- The text with a carriage return put before every line feed. -/
def withReturns (cs : List Char) : List Char :=
  cs.flatMap fun c => if c = '\n' then ['\r', '\n'] else [c]

private theorem withReturns_nil : withReturns [] = [] := rfl

/-- A line feed gets a carriage return before it. -/
theorem withReturns_newline (cs : List Char) :
    withReturns ('\n' :: cs) = '\r' :: '\n' :: withReturns cs := rfl

/-- Other characters stay as they are. -/
theorem withReturns_cons {c : Char} (h : c ≠ '\n') (cs : List Char) :
    withReturns (c :: cs) = c :: withReturns cs := by
  rw [withReturns, List.flatMap_cons, if_neg h]
  rfl

/-- What drops line feeds from the front of a text, or stops at them, does so with carriage returns
    too. -/
theorem dropWhile_withReturns {p : Char → Bool} (hp : p '\r' = p '\n') (cs : List Char) :
    (withReturns cs).dropWhile p = withReturns (cs.dropWhile p) := by
  induction cs with
  | nil => rfl
  | cons c cs ih =>
    by_cases hbreak : c = '\n'
    · subst hbreak
      cases hstop : p '\n' with
      | true => simp [withReturns_newline, hp, hstop, ih]
      | false => simp [withReturns_newline, hp, hstop]
    · cases hstop : p c with
      | true => simp [withReturns_cons hbreak, hstop, ih]
      | false => simp [withReturns_cons hbreak, hstop]

private theorem takeWhile_withReturns {p : Char → Bool} (hreturn : p '\r' = false)
    (hfeed : p '\n' = false)
    (cs : List Char) : (withReturns cs).takeWhile p = cs.takeWhile p := by
  induction cs with
  | nil => rfl
  | cons c cs ih =>
    by_cases hbreak : c = '\n'
    · subst hbreak
      simp [withReturns_newline, hreturn, hfeed]
    · simp [withReturns_cons hbreak, List.takeWhile_cons, ih]

private theorem afterWord_withReturns {ws : List Char} (hreturn : '\r' ∉ ws) (hfeed : '\n' ∉ ws)
    (cs : List Char) : afterWord ws (withReturns cs) = (afterWord ws cs).map withReturns := by
  induction ws generalizing cs with
  | nil => rfl
  | cons w ws ih =>
    simp only [List.mem_cons, not_or] at hreturn hfeed
    cases cs with
    | nil => rfl
    | cons c cs =>
      by_cases hbreak : c = '\n'
      · subst hbreak
        have hupper : '\r'.toUpper = '\r' ∧ '\n'.toUpper = '\n' := by decide
        rw [withReturns_newline, afterWord, afterWord, hupper.1, hupper.2, if_neg hreturn.1,
          if_neg hfeed.1]
        rfl
      · rw [withReturns_cons hbreak, afterWord, afterWord]
        split
        · exact ih hreturn.2 hfeed.2 cs
        · rfl

private theorem afterBlanks_withReturns (cs : List Char) :
    afterBlanks (withReturns cs) = (afterBlanks cs).map withReturns := by
  have hdrop := @dropWhile_withReturns isBlank (by decide)
  cases cs with
  | nil => rfl
  | cons c cs =>
    by_cases hbreak : c = '\n'
    · subst hbreak
      have hfeed : ('\n' :: withReturns cs).dropWhile isBlank = withReturns (cs.dropWhile isBlank) :=
        hdrop cs
      rw [withReturns_newline, afterBlanks, if_pos (by decide), hfeed]
      rfl
    · rw [withReturns_cons hbreak, afterBlanks, afterBlanks, hdrop]
      split
      · rfl
      · rfl

private theorem bind_withReturns {α : Type} {scanned : Option (List Char)}
    {read read' : List Char → Option α} (h : ∀ cs, read (withReturns cs) = read' cs) :
    (scanned.map withReturns).bind read = scanned.bind read' := by
  rw [Option.bind_map]
  exact Option.bind_congr fun cs _ => h cs

/-- The name between the gaps of a header holds no line ending, so a header is read alike. -/
theorem header?_withReturns (cs : List Char) :
    header? (withReturns cs) = (header? cs).map fun found => (found.1, withReturns found.2) := by
  have hname := @takeWhile_withReturns isWord (by decide) (by decide)
  have hbehind := @dropWhile_withReturns isWord (by decide)
  have hgap := @dropWhile_withReturns isBlank (by decide)
  simp only [header?, Option.bind_eq_bind, Option.map_bind]
  rw [afterWord_withReturns (by decide) (by decide)]
  refine bind_withReturns fun behindCreate => ?_
  rw [afterBlanks_withReturns, Function.comp_apply, Option.map_bind]
  refine bind_withReturns fun beforeTable => ?_
  rw [afterWord_withReturns (by decide) (by decide), Function.comp_apply, Option.map_bind]
  refine bind_withReturns fun behindTable => ?_
  rw [afterBlanks_withReturns, Function.comp_apply, Option.map_bind]
  refine bind_withReturns fun named => ?_
  rw [hname, hbehind, hgap, Function.comp_apply]
  split
  · rfl
  · cases hopen : (named.dropWhile isWord).dropWhile isBlank with
    | nil => rfl
    | cons c rest =>
      by_cases hbreak : c = '\n'
      · subst hbreak
        rfl
      · rw [withReturns_cons hbreak]
        by_cases hparen : c = '('
        · subst hparen
          rfl
        · simp [hparen]

private theorem afterSemicolon_withReturns (cs : List Char) :
    afterSemicolon (withReturns cs) = (afterSemicolon cs).map withReturns := by
  rw [afterSemicolon, dropWhile_withReturns (by decide), afterSemicolon]
  cases cs.dropWhile isBlank with
  | nil => rfl
  | cons c rest =>
    by_cases hbreak : c = '\n'
    · subst hbreak
      rfl
    · rw [withReturns_cons hbreak]
      by_cases hend : c = ';'
      · subst hend
        rfl
      · simp [hend]

/-- A section ends where it did, as a carriage return is one more blank before a semicolon and no
    parenthesis. -/
theorem closing?_withReturns (cs : List Char) :
    closing? (withReturns cs) =
      (closing? cs).map fun found => (withReturns found.1, withReturns found.2) := by
  induction cs with
  | nil => rfl
  | cons c cs ih =>
    by_cases hbreak : c = '\n'
    · subst hbreak
      have hfeed := @closing?_append ['\n'] (by decide) cs
      have hboth := @closing?_append ['\r', '\n'] (by decide) (withReturns cs)
      rw [List.singleton_append] at hfeed
      rw [List.cons_append, List.singleton_append] at hboth
      rw [withReturns_newline, hboth, hfeed, ih, Option.map_map, Option.map_map]
      rfl
    · rw [withReturns_cons hbreak]
      by_cases hends : c = ')' ∧ ∃ rest, afterSemicolon cs = some rest
      · obtain ⟨rfl, rest, hend⟩ := hends
        have hend' : afterSemicolon (withReturns cs) = some (withReturns rest) := by
          rw [afterSemicolon_withReturns, hend]
          rfl
        rw [closing?_close hend, closing?_close hend']
        rfl
      · have hnone : c = ')' → afterSemicolon cs = none := by
          simpa [← Option.isSome_iff_exists] using hends
        have hnone' : c = ')' → afterSemicolon (withReturns cs) = none := by
          intro hc
          rw [afterSemicolon_withReturns, hnone hc]
          rfl
        rw [closing?_cons hnone, closing?_cons hnone', ih, Option.map_map, Option.map_map]
        refine Option.map_congr fun found _ => ?_
        simp [withReturns_cons hbreak]

/-- The block as it stands in the text with carriage returns. -/
def blockWithReturns (b : Block) : Block := ⟨b.name, withReturns b.body⟩

private theorem atFront?_withReturns (cs : List Char) :
    atFront? (withReturns cs) =
      (atFront? cs).map fun found => (blockWithReturns found.1, withReturns found.2) := by
  simp only [atFront?, Option.bind_eq_bind, Option.map_bind]
  rw [header?_withReturns, Option.bind_map]
  refine Option.bind_congr fun found _ => ?_
  rw [Function.comp_apply, closing?_withReturns, Option.bind_map, Function.comp_apply,
    Option.map_bind]
  rfl

/-- The blocks of a text are its blocks with carriage returns, the line endings in their column
    sections aside. -/
theorem all_withReturns (cs : List Char) :
    all (withReturns cs) = (all cs).map blockWithReturns := by
  fun_induction all cs with
  | case1 cs b rest hfront ih =>
    have hfront' : atFront? (withReturns cs) = some (blockWithReturns b, withReturns rest) := by
      rw [atFront?_withReturns, hfront]
      rfl
    rw [all_of_some hfront', ih, List.map_cons]
  | case2 hfront => rw [withReturns_nil, all_eq_nil_of_closing rfl, List.map_nil]
  | case3 c cs hfront ih =>
    have hfront' : atFront? (withReturns (c :: cs)) = none := by
      rw [atFront?_withReturns, hfront]
      rfl
    by_cases hbreak : c = '\n'
    · subst hbreak
      have hfeed : atFront? ('\n' :: withReturns cs) = none :=
        atFront?_eq_none_of_header (header?_cons_eq_none (by decide) _)
      rw [withReturns_newline] at hfront' ⊢
      rw [all_of_none hfront', all_of_none hfeed, ih]
    · rw [withReturns_cons hbreak] at hfront' ⊢
      rw [all_of_none hfront', ih]

/-- What is added to a line stands in its comment or at its end. -/
theorem beforeComment_concat {c : Char} (hc : c ≠ '-') (line : List Char) :
    beforeComment (line ++ [c]) = beforeComment line ∨
      beforeComment (line ++ [c]) = beforeComment line ++ [c] := by
  induction line with
  | nil => exact Or.inr (beforeComment_cons (Or.inl hc))
  | cons d line ih =>
    by_cases hpair : d = '-' ∧ line.head? = some '-'
    · obtain ⟨rfl, hnext⟩ := hpair
      obtain ⟨tail, rfl⟩ := List.head?_eq_some_iff.mp hnext
      exact Or.inl rfl
    · have hkept : d ≠ '-' ∨ line.head? ≠ some '-' := not_and_or.mp hpair
      have hkept' : d ≠ '-' ∨ (line ++ [c]).head? ≠ some '-' := by
        cases line with
        | nil => exact Or.inr (by simpa using hc)
        | cons e line => exact hkept
      rw [List.cons_append, beforeComment_cons hkept, beforeComment_cons hkept']
      exact ih.imp (congrArg _) (congrArg _)

/-- What is added to a line and is no comma goes on the last of the parts it is cut into. -/
theorem exists_cut_concat {c : Char} (hc : c ≠ ',') (depth : Nat) (line : List Char) :
    ∃ first last, cut depth line = first ++ [last] ∧
      cut depth (line ++ [c]) = first ++ [last ++ [c]] := by
  induction line generalizing depth with
  | nil =>
    refine ⟨[], [], rfl, ?_⟩
    rw [List.nil_append, cut, if_neg fun h => hc h.1]
    rfl
  | cons d line ih =>
    by_cases hcomma : d = ',' ∧ depth = 0
    · obtain ⟨first, last, hcut, hcut'⟩ := ih 0
      refine ⟨[] :: first, last, ?_, ?_⟩
      · rw [cut, if_pos hcomma, hcut, List.cons_append]
      · rw [List.cons_append, cut, if_pos hcomma, hcut', List.cons_append]
    · obtain ⟨first, last, hcut, hcut'⟩ := ih (depthAfter depth d)
      rw [List.cons_append, cut, if_neg hcomma, hcut, cut, if_neg hcomma, hcut']
      cases first with
      | nil => exact ⟨[], d :: last, rfl, rfl⟩
      | cons p first => exact ⟨(d :: p) :: first, last, rfl, rfl⟩

private theorem trim_concat_blank {c : Char} (hc : isBlank c = true) (cs : List Char) :
    trim (cs ++ [c]) = trim cs := by
  have hgap : IsGap [c] := by simpa [IsGap] using hc
  by_cases hsolid : ∃ d ∈ cs, isBlank d = false
  · rw [trim, dropWhile_append_of_solid hsolid, dropEnd_append hgap, trim]
  · have hcs : IsGap cs := by simpa [IsGap] using hsolid
    rw [trim, trim, List.dropWhile_eq_nil_iff.mpr hcs,
      List.dropWhile_eq_nil_iff.mpr (hcs.append hgap)]

/-- A blank at the end of a line is dropped with its comment or trimmed with its last fragment. -/
theorem ofLine_concat_blank {c : Char} (hc : isBlank c = true) (line : List Char) :
    (ofLine (line ++ [c])).map trim = (ofLine line).map trim := by
  have hsolid {d : Char} (hd : isBlank d = false) : c ≠ d := by
    rintro rfl
    rw [hc] at hd
    cases hd
  rw [ofLine, ofLine]
  rcases beforeComment_concat (hsolid (by decide)) line with hsame | hmore
  · rw [hsame]
  · obtain ⟨first, last, hcut, hcut'⟩ :=
      exists_cut_concat (hsolid (d := ',') (by decide)) 0 (beforeComment line)
    rw [hmore, hcut, hcut', List.map_append, List.map_append, List.map_singleton,
      List.map_singleton, trim_concat_blank hc]

private theorem ofBody_concat_blank {c : Char} (hc : isBlank c = true) (hbreak : c ≠ '\n')
    {line : List Char} (hline : '\n' ∉ line) : ofBody (line ++ [c]) = ofBody line := by
  have hlonger : '\n' ∉ line ++ [c] := by
    simp only [List.mem_append, List.mem_singleton, not_or]
    exact ⟨hline, Ne.symm hbreak⟩
  simp only [ofBody, pieces_of_free (newline_free hline), pieces_of_free (newline_free hlonger),
    List.flatMap_singleton, ofLine_concat_blank hc]

private theorem ofBody_append_withReturns {line : List Char} (hline : '\n' ∉ line)
    (cs : List Char) : ofBody (line ++ withReturns cs) = ofBody (line ++ cs) := by
  induction cs generalizing line with
  | nil => rfl
  | cons c cs ih =>
    by_cases hbreak : c = '\n'
    · subst hbreak
      have hrest : ofBody (withReturns cs) = ofBody cs := @ih [] (by simp)
      rw [withReturns_newline, List.append_cons, ofBody_append_newline, ofBody_append_newline,
        ofBody_concat_blank (by decide) (by decide) hline, hrest]
    · have hline' : '\n' ∉ line ++ [c] := by
        simp only [List.mem_append, List.mem_singleton, not_or]
        exact ⟨hline, Ne.symm hbreak⟩
      rw [withReturns_cons hbreak, List.append_cons, ih hline', List.append_assoc,
        List.singleton_append]

/-- The lines of a section end in a carriage return until their fragments are trimmed, so the
    section has the same columns. -/
theorem readColumns_withReturns (body : List Char) :
    readColumns (withReturns body) = readColumns body := by
  have hbody : ofBody (withReturns body) = ofBody body :=
    @ofBody_append_withReturns [] (by simp) body
  rw [readColumns, hbody, readColumns]

end LineEnding

open LineEnding

/-- The text with every line feed replaced by a carriage return and a line feed. -/
def withCarriageReturns (text : String) : String := String.ofList (withReturns text.toList)

/-- The style of line endings does not matter: with a carriage return before every line feed a text
    has the same blocks, up to these carriage returns in their column sections, and the same
    tables. -/
theorem readSchema_withCarriageReturns (text : String) :
    Block.all (withCarriageReturns text).toList =
        (Block.all text.toList).map (fun b => ⟨b.name, withReturns b.body⟩) ∧
      readSchema (withCarriageReturns text) = readSchema text := by
  have hblocks := all_withReturns text.toList
  rw [withCarriageReturns, readSchema, String.toList_ofList]
  refine ⟨hblocks, ?_⟩
  rw [hblocks, List.map_map, readSchema]
  refine List.map_congr_left fun b _ => ?_
  rw [Function.comp_apply, Block.table, blockWithReturns, readColumns_withReturns, Block.table]

end AccessLayer
