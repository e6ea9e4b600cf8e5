import AccessLayer.Text.Blank

namespace AccessLayer

/-- The text of a path, with `/` between its components. -/
structure Path where
  text : String
  deriving DecidableEq, Repr

namespace Path

/-- Whether a path starts at the root. -/
def isAbsolute (p : Path) : Bool := p.text.toList.head? == some '/'

/-- The path of `q` seen from `p`. An absolute `q` stands for itself. -/
def join (p q : Path) : Path :=
  if q.isAbsolute then q
  else if p.text.isEmpty || p.text.toList.getLast? == some '/' then ⟨p.text ++ q.text⟩
  else ⟨p.text ++ "/" ++ q.text⟩

/-- What a path starts with before its components: the root, the dot for where one is, or
    nothing. -/
def splitStart (cs : List Char) : List Char × List Char :=
  match cs with
  | '/' :: rest => (['/'], rest)
  | ['.'] => (['.'], [])
  | '.' :: '/' :: rest => (['.'], '/' :: rest)
  | _ => ([], cs)

/-- The last component of a reversed body, after its slashes and dots at the end, and what precedes
    it, both reversed. -/
def takeLast (reversed : List Char) : List Char × List Char :=
  (reversed.takeWhile (· != '/'), (reversed.dropWhile (· != '/')).drop 1)

/-- Drops components that are empty or a single dot from the end of a reversed body. -/
def tidyEnd : List Char → List Char
  | '/' :: rest => tidyEnd rest
  | ['.'] => []
  | '.' :: '/' :: rest => tidyEnd rest
  | cs => cs

/-- The path without its last component; the root and the empty path have none. -/
def parent? (p : Path) : Option Path :=
  let (start, body) := splitStart p.text.toList
  match tidyEnd body.reverse with
  | [] => if start = ['.'] then some ⟨""⟩ else none
  | reversed => some ⟨String.ofList (start ++ (tidyEnd (takeLast reversed).2).reverse)⟩

/-- The path and the paths above it, the nearest first, up to but without the empty path and the
    root: at most `fuel` of them. -/
def ancestorsUpTo : Nat → Path → List Path
  | 0, _ => []
  | fuel + 1, p =>
    match p.parent? with
    | none => []
    | some up => p :: ancestorsUpTo fuel up

/-- The path and the paths above it, the nearest first, up to but without the empty path and the
    root. A path has no more of them than characters. -/
def ancestors (p : Path) : List Path := ancestorsUpTo p.text.length p

end Path

end AccessLayer
