import AccessLayer.Text.CaseTable

namespace AccessLayer.Text

/-- Maps a code point when it is one of the run's. -/
def Run.image? (r : Run) (n : Nat) : Option Nat :=
  if r.first ≤ n ∧ n ≤ r.last ∧ (n - r.first) % r.step = 0 then some (n + r.offset).toNat else none

/-- The case form of a character above ASCII; the character itself when the tables have none. -/
def mapCase (long : List (Nat × List Nat)) (runs : List Run) (c : Char) : List Char :=
  match long.lookup c.toNat with
  | some ns => ns.map Char.ofNat
  | none => [((runs.findSome? (·.image? c.toNat)).map Char.ofNat).getD c]

/-- The upper case of a character, which may be several. -/
def upperChar (c : Char) : List Char :=
  if c.toNat < 128 then [c.toUpper] else mapCase upperLong upperRuns c

/-- The lower case of a character out of context, which may be several. -/
def lowerChar (c : Char) : List Char :=
  if c.toNat < 128 then [c.toLower] else mapCase lowerLong lowerRuns c

/-- A letter that has upper and lower case forms, or is one. -/
def isCased (c : Char) : Bool :=
  if c.toNat < 128 then c.isAlpha else inSpans casedSpans c

/-- A character that does not separate a letter from its neighbours. -/
def isCaseIgnorable (c : Char) : Bool :=
  if c.toNat < 128 then ['\'', '.', ':', '^', Char.ofNat 0x60].contains c
  else inSpans caseIgnorableSpans c

/-- Whether the nearest character that counts is a letter. -/
def meetsLetter (cs : List Char) : Bool :=
  (cs.find? fun c => !isCaseIgnorable c).any isCased

/-- A sigma is final after a letter and before none; `before` is what precedes it, nearest first. -/
def isFinalSigma (before after : List Char) : Bool := meetsLetter before && !meetsLetter after

/-- The lower case of `cs` where `before` precedes it, nearest first. -/
def lowerAfter (before : List Char) : List Char → List Char
  | [] => []
  | c :: cs =>
    (if c = 'Σ' then [if isFinalSigma before cs then 'ς' else 'σ'] else lowerChar c) ++
      lowerAfter (c :: before) cs

/-- The lower case of a text, in which a capital sigma at the end of a word becomes a final
    sigma. -/
def lower (cs : List Char) : List Char := lowerAfter [] cs

/-- The first character in upper case, the others in lower case as a text of their own. -/
def capitalize : List Char → List Char
  | [] => []
  | c :: cs => upperChar c ++ lower cs

/-- Only the ASCII letters change. -/
def upperAscii (cs : List Char) : List Char := cs.map Char.toUpper

/-- Only the ASCII letters change. -/
def lowerAscii (cs : List Char) : List Char := cs.map Char.toLower

end AccessLayer.Text
