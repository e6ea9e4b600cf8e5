import AccessLayer.Text.Blank
import AccessLayer.Text.Case
import AccessLayer.Text.Word

namespace AccessLayer

/-- A `CREATE TABLE` statement: the table's name and the text between its parentheses. -/
structure Block where
  name : List Char
  body : List Char
  deriving DecidableEq, Repr

namespace Block

open Text

/-- What follows `word`, given in upper case, when the text starts with it in any case. -/
def afterWord : List Char → List Char → Option (List Char)
  | [], cs => some cs
  | _ :: _, [] => none
  | w :: ws, c :: cs => if c.toUpper = w then afterWord ws cs else none

/-- What follows the blanks that the text starts with, of which there is at least one. -/
def afterBlanks : List Char → Option (List Char)
  | [] => none
  | c :: cs => if isBlank c then some (cs.dropWhile isBlank) else none

/-- The name in a header at the front of the text, and what follows the opening parenthesis. -/
def header? (cs : List Char) : Option (List Char × List Char) := do
  let cs ← afterWord "CREATE".toList cs
  let cs ← afterBlanks cs
  let cs ← afterWord "TABLE".toList cs
  let cs ← afterBlanks cs
  if (cs.takeWhile isWord).isEmpty then none
  else
    match (cs.dropWhile isWord).dropWhile isBlank with
    | '(' :: rest => some (cs.takeWhile isWord, rest)
    | _ => none

/-- What follows a semicolon with which the text starts, blanks aside. -/
def afterSemicolon (cs : List Char) : Option (List Char) :=
  match cs.dropWhile isBlank with
  | ';' :: rest => some rest
  | _ => none

/-- The text before the first closing parenthesis that a semicolon follows, blanks aside, and what
    follows the semicolon. -/
def closing? : List Char → Option (List Char × List Char)
  | [] => none
  | c :: cs =>
    match if c = ')' then afterSemicolon cs else none with
    | some rest => some ([], rest)
    | none => (closing? cs).map fun found => (c :: found.1, found.2)

/-- The block at the front of the text and what follows it. -/
def atFront? (cs : List Char) : Option (Block × List Char) := do
  let (name, opened) ← header? cs
  let (body, rest) ← closing? opened
  some (⟨name, body⟩, rest)

private theorem length_dropWhile_le (p : Char → Bool) (cs : List Char) :
    (cs.dropWhile p).length ≤ cs.length := by
  induction cs with
  | nil => simp
  | cons c cs ih =>
    simp only [List.dropWhile_cons]
    split
    · simp only [List.length_cons]
      omega
    · exact Nat.le_refl _

private theorem length_afterWord {ws cs rest : List Char} (h : afterWord ws cs = some rest) :
    rest.length + ws.length = cs.length := by
  induction ws generalizing cs with
  | nil => simp_all [afterWord]
  | cons w ws ih =>
    cases cs with
    | nil => simp [afterWord] at h
    | cons c cs =>
      simp only [afterWord] at h
      split at h
      · have := ih h
        simp only [List.length_cons]
        omega
      · simp at h

private theorem length_afterBlanks {cs rest : List Char} (h : afterBlanks cs = some rest) :
    rest.length < cs.length := by
  cases cs with
  | nil => simp [afterBlanks] at h
  | cons c cs =>
    simp only [afterBlanks] at h
    split at h
    · obtain rfl := Option.some.inj h
      exact Nat.lt_succ_of_le (length_dropWhile_le isBlank cs)
    · simp at h

private theorem length_header {cs name rest : List Char} (h : header? cs = some (name, rest)) :
    rest.length < cs.length := by
  simp only [header?, Option.bind_eq_bind, Option.bind_eq_some_iff] at h
  obtain ⟨c1, h1, c2, h2, c3, h3, c4, h4, h5⟩ := h
  split at h5
  · simp at h5
  · split at h5
    · rename_i tail hopen
      have := length_afterWord h1
      have := length_afterBlanks h2
      have := length_afterWord h3
      have := length_afterBlanks h4
      have hlength := length_dropWhile_le isBlank (c4.dropWhile isWord)
      have := length_dropWhile_le isWord c4
      obtain ⟨-, rfl⟩ := Prod.mk.inj (Option.some.inj h5)
      rw [hopen, List.length_cons] at hlength
      omega
    · simp at h5

private theorem length_afterSemicolon {cs rest : List Char} (h : afterSemicolon cs = some rest) :
    rest.length < cs.length := by
  simp only [afterSemicolon] at h
  split at h
  · rename_i tail hopen
    have hlength := length_dropWhile_le isBlank cs
    obtain rfl := Option.some.inj h
    rw [hopen, List.length_cons] at hlength
    exact hlength
  · simp at h

private theorem length_closing {cs body rest : List Char} (h : closing? cs = some (body, rest)) :
    rest.length < cs.length := by
  induction cs generalizing body with
  | nil => simp [closing?] at h
  | cons c cs ih =>
    simp only [closing?] at h
    split at h
    · rename_i hfound
      split at hfound
      · obtain ⟨-, rfl⟩ := Prod.mk.inj (Option.some.inj h)
        exact Nat.lt_succ_of_lt (length_afterSemicolon hfound)
      · simp at hfound
    · obtain ⟨⟨inner, tail⟩, hinner, heq⟩ := Option.map_eq_some_iff.1 h
      obtain ⟨-, rfl⟩ := Prod.mk.inj heq
      have : tail.length < cs.length := ih hinner
      exact Nat.lt_succ_of_lt this

/-- A block is not empty, so a search that goes on behind it ends. -/
theorem length_atFront {cs rest : List Char} {b : Block} (h : atFront? cs = some (b, rest)) :
    rest.length < cs.length := by
  simp only [atFront?, Option.bind_eq_bind, Option.bind_eq_some_iff] at h
  obtain ⟨⟨name, opened⟩, h1, ⟨body, tail⟩, h2, h3⟩ := h
  obtain ⟨-, rfl⟩ := Prod.mk.inj (Option.some.inj h3)
  exact Nat.lt_trans (length_closing h2) (length_header h1)

/-- The blocks of a text in order. Where none starts, the search goes on one character later.
    Between blocks any text may stand. -/
def all (cs : List Char) : List Block :=
  match _ : atFront? cs with
  | some (b, rest) => b :: all rest
  | none =>
    match cs with
    | [] => []
    | _ :: rest => all rest
termination_by cs.length
decreasing_by
  · exact length_atFront ‹_›
  · simp

end Block

end AccessLayer
