import AccessLayer.Proofs.Schema.Section
import AccessLayer.Schema.Reading

namespace AccessLayer

namespace Comment

open Text

/-- Whether a comment runs on behind `c`, which `cs` follows, when `within` tells whether one runs
    before it. -/
def runsOn (within : Bool) (c : Char) (cs : List Char) : Bool :=
  c != '\n' && (within || (c == '-' && cs.head? == some '-'))

/-- Drops the comments of a text, the rest of the one it starts in included. -/
def drop (within : Bool) : List Char → List Char
  | [] => []
  | c :: cs => if runsOn within c cs then drop true cs else c :: drop false cs

/-- Within a comment characters are dropped. -/
theorem drop_cons_of_runsOn {within : Bool} {c : Char} {cs : List Char}
    (h : runsOn within c cs = true) : drop within (c :: cs) = drop true cs := by
  rw [drop, if_pos h]

/-- Outside comments characters are kept. -/
theorem drop_cons {within : Bool} {c : Char} {cs : List Char} (h : runsOn within c cs = false) :
    drop within (c :: cs) = c :: drop false cs := by
  rw [drop, if_neg (by rw [h]; decide)]

/-- No comment starts but at a hyphen. -/
theorem runsOn_false_of_ne {c : Char} (h : c ≠ '-') (cs : List Char) :
    runsOn false c cs = false := by
  simp [runsOn, h]

/-- A comment ends only at a line break. -/
theorem runsOn_eq_false {within : Bool} {c : Char} {cs : List Char}
    (h : runsOn within c cs = false) : c = '\n' ∨ within = false := by
  cases within with
  | false => exact Or.inr rfl
  | true => exact Or.inl (by simpa [runsOn] using h)

/-- Text without hyphens is kept whole. -/
theorem drop_append_of_not_mem {front : List Char} (h : '-' ∉ front) (cs : List Char) :
    drop false (front ++ cs) = front ++ drop false cs := by
  induction front with
  | nil => rfl
  | cons c front ih =>
    simp only [List.mem_cons, not_or] at h
    rw [List.cons_append, drop_cons (runsOn_false_of_ne (Ne.symm h.1) _), ih h.2, List.cons_append]

private theorem head?_piece {sep : Char → Bool} {cs p : List Char} {ps : List (List Char)}
    (h : pieces sep cs = p :: ps) {d : Char} (hd : sep d = false) :
    p.head? = some d ↔ cs.head? = some d := by
  cases cs with
  | nil =>
    obtain ⟨rfl, -⟩ := List.cons.inj h
    rfl
  | cons c cs =>
    simp only [pieces] at h
    split at h
    · rename_i hc
      obtain ⟨rfl, -⟩ := List.cons.inj h
      have hne : c ≠ d := by
        rintro rfl
        rw [hc] at hd
        cases hd
      simp [hne]
    · obtain ⟨q, qs, hpieces⟩ := List.exists_cons_of_ne_nil (pieces_ne_nil sep cs)
      rw [hpieces, extendFirst] at h
      obtain ⟨rfl, -⟩ := List.cons.inj h
      simp

private theorem pieces_drop_of_cons {cs p : List Char} {ps : List (List Char)}
    (h : pieces (· == '\n') cs = p :: ps) (within : Bool) :
    pieces (· == '\n') (drop within cs) =
      (if within then [] else Fragment.beforeComment p) :: ps.map Fragment.beforeComment := by
  induction cs generalizing within p ps with
  | nil =>
    obtain ⟨rfl, rfl⟩ := List.cons.inj h
    cases within <;> rfl
  | cons c cs ih =>
    obtain ⟨q, qs, hrest⟩ := List.exists_cons_of_ne_nil (pieces_ne_nil (· == '\n') cs)
    by_cases hbreak : c = '\n'
    · subst hbreak
      have hp : [] :: q :: qs = p :: ps := by rw [← hrest, ← h]; rfl
      obtain ⟨rfl, rfl⟩ := List.cons.inj hp
      rw [drop_cons rfl, pieces, if_pos (beq_self_eq_true '\n'), ih hrest false]
      cases within <;> rfl
    · have hp : (c :: q) :: qs = p :: ps := by
        rw [← h, pieces, if_neg (by simpa using hbreak), hrest, extendFirst]
      obtain ⟨rfl, rfl⟩ := List.cons.inj hp
      have hdash := head?_piece hrest (d := '-') rfl
      cases hruns : runsOn within c cs with
      | true =>
        rw [drop_cons_of_runsOn hruns, ih hrest true]
        cases within with
        | true => rfl
        | false =>
          simp only [runsOn, Bool.false_or, Bool.and_eq_true, beq_iff_eq, bne_iff_ne] at hruns
          obtain ⟨-, rfl, hnext⟩ := hruns
          obtain ⟨tail, rfl⟩ := List.head?_eq_some_iff.mp (hdash.mpr hnext)
          rfl
      | false =>
        obtain rfl := (runsOn_eq_false hruns).resolve_left hbreak
        have hpair : c ≠ '-' ∨ q.head? ≠ some '-' := by
          simpa [runsOn, hbreak, hdash, ← not_and_or] using hruns
        rw [drop_cons hruns, pieces, if_neg (by simpa using hbreak), ih hrest false, extendFirst]
        simp [Fragment.beforeComment_cons hpair]

/-- Every line keeps what stands before its comment, and there are as many lines as before. -/
theorem pieces_drop (cs : List Char) :
    pieces (· == '\n') (drop false cs) =
      (pieces (· == '\n') cs).map Fragment.beforeComment := by
  obtain ⟨p, ps, hpieces⟩ := List.exists_cons_of_ne_nil (pieces_ne_nil (· == '\n') cs)
  rw [pieces_drop_of_cons hpieces, hpieces]
  rfl

private theorem beforeComment_idempotent (cs : List Char) :
    Fragment.beforeComment (Fragment.beforeComment cs) = Fragment.beforeComment cs := by
  have hclear := Fragment.uncommented_of_no_dashes (Fragment.no_dashes_beforeComment cs)
  have hkept := hclear [] (by simp)
  rw [List.append_nil] at hkept
  exact hkept.trans (List.append_nil _)

/-- The fragments of a section are those of the section without its comments. No line is joined to
    the next, since line breaks end a comment and stay. -/
theorem ofBody_drop (body : List Char) :
    Fragment.ofBody (drop false body) = Fragment.ofBody body := by
  have hline : ∀ line, Fragment.ofLine (Fragment.beforeComment line) = Fragment.ofLine line :=
    fun line => by rw [Fragment.ofLine, beforeComment_idempotent, Fragment.ofLine]
  simp only [Fragment.ofBody, pieces_drop, List.flatMap_map, hline]

/-- In a column section comments declare nothing and hide nothing outside themselves. -/
theorem readColumns_drop (body : List Char) : readColumns (drop false body) = readColumns body := by
  rw [readColumns, ofBody_drop, readColumns]

end Comment

end AccessLayer
