import AccessLayer.Text.Span

namespace AccessLayer.Text

/-- The code points with the White_Space property. -/
def blankSpans : List Span :=
  [(0x9, 0xd), (0x20, 0x20), (0x85, 0x85), (0xa0, 0xa0), (0x1680, 0x1680), (0x2000, 0x200a),
   (0x2028, 0x2029), (0x202f, 0x202f), (0x205f, 0x205f), (0x3000, 0x3000)]

/-- Line breaks are blank too. -/
def isBlank (c : Char) : Bool := inSpans blankSpans c

/-- Puts `c` in front of the first part. -/
def extendFirst (c : Char) : List (List Char) → List (List Char)
  | [] => [[c]]
  | p :: ps => (c :: p) :: ps

/-- The parts between separators, empty ones included: always one more than there are separators. -/
def pieces (sep : Char → Bool) : List Char → List (List Char)
  | [] => [[]]
  | c :: cs => if sep c then [] :: pieces sep cs else extendFirst c (pieces sep cs)

/-- The parts between separators that are not empty. -/
def solidPieces (sep : Char → Bool) (cs : List Char) : List (List Char) :=
  (pieces sep cs).filter fun p => !p.isEmpty

/-- The words of a text, between blanks. -/
def words (cs : List Char) : List (List Char) := solidPieces isBlank cs

/-- Drops from the end what `p` accepts. -/
def dropEnd (p : Char → Bool) (cs : List Char) : List Char := (cs.reverse.dropWhile p).reverse

/-- A text without the blanks at its ends. -/
def trim (cs : List Char) : List Char := dropEnd isBlank (cs.dropWhile isBlank)

/-- There is always a piece, be it empty. -/
theorem pieces_ne_nil (sep : Char → Bool) (cs : List Char) : pieces sep cs ≠ [] := by
  cases cs with
  | nil => simp [pieces]
  | cons c cs =>
    simp only [pieces]
    split
    · simp
    · cases pieces sep cs <;> simp [extendFirst]

/-- Spaces after a text that is shorter than `width` characters; a longer text stays whole. -/
def padEnd (width : Nat) (s : String) : String :=
  s ++ String.ofList (List.replicate (width - s.length) ' ')

end AccessLayer.Text
