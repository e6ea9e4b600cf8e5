import AccessLayer.Toml.Quoted

namespace AccessLayer

namespace Toml

/-- A digit to base sixteen. -/
def isHexDigit (c : Char) : Bool := (hexValue? c).isSome

/-- A digit to base eight. -/
def isOctalDigit (c : Char) : Bool := '0' ≤ c && c ≤ '7'

/-- A digit to base two. -/
def isBinaryDigit (c : Char) : Bool := c == '0' || c == '1'

/-- A digit, or an underscore between digits. -/
def isDecimalPart (c : Char) : Bool := c.isDigit || c == '_'

/-- Whether each underscore has a digit on both sides; `after` tells whether one may come first. -/
def isGrouped (digit : Char → Bool) : Bool → List Char → Bool
  | _, [] => true
  | after, c :: cs =>
    if c == '_' then after && cs.head?.any digit && isGrouped digit false cs
    else isGrouped digit (digit c) cs

/-- A number in a base of its own, after the letter of the base. There need be no digit. -/
def isInBase (digit : Char → Bool) (cs : List Char) : Bool :=
  cs.all (fun c => digit c || c == '_') && isGrouped digit false cs

/-- A whole number in base ten, after its sign if it is `signed`. No zero comes first, unless alone.
    Past the first underscore only the neighbours of underscores count; a sign may be one of
    them. -/
def isWhole (signed : Bool) (cs : List Char) : Bool :=
  match cs, cs.dropWhile Char.isDigit with
  | [], _ => false
  | _, [] => cs.head? != some '0' || cs.length == 1
  | _, c :: rest =>
    c == '_' && cs.head? != some '0' && !rest.any (['.', 'e', 'E', ' '].contains ·) &&
      isGrouped isHexDigit signed cs

/-- Drops digits and underscores, of which at least one is a digit. With `plain`, no zero comes
    before other digits. -/
def afterDigits? (plain : Bool) (cs : List Char) : Option (List Char) :=
  let count := ((cs.takeWhile isDecimalPart).filter Char.isDigit).length
  if count = 0 || (plain && 1 < count && cs.head? == some '0') then none
  else some (cs.dropWhile isDecimalPart)

/-- Drops the part of a number after its point, if there is one. -/
def afterFraction? : List Char → Option (List Char)
  | '.' :: cs => afterDigits? false cs
  | cs => some cs

/-- Drops the exponent of a number, if there is one. -/
def afterExponent? : List Char → Option (List Char)
  | c :: cs =>
    if c == 'e' || c == 'E' then
      match cs with
      | '+' :: cs => afterDigits? false cs
      | '-' :: cs => afterDigits? false cs
      | cs => afterDigits? false cs
    else some (c :: cs)
  | [] => some []

/-- A number with a point or an exponent, after its sign if it is `signed`. -/
def isFractional (signed : Bool) (cs : List Char) : Bool :=
  (((afterDigits? true cs).bind afterFraction?).bind afterExponent?).any (·.isEmpty) &&
    cs.any (['.', 'e', 'E'].contains ·) && isGrouped Char.isDigit signed cs

/-- A number that may stand after a sign. -/
def isUnsigned (signed : Bool) (cs : List Char) : Bool :=
  cs == ['i', 'n', 'f'] || cs == ['n', 'a', 'n'] || isWhole signed cs || isFractional signed cs

/-- A number of any kind; one in a base of its own has no sign. -/
def isNumber : List Char → Bool
  | '+' :: cs => isUnsigned true cs
  | '-' :: cs => isUnsigned true cs
  | '0' :: 'x' :: cs => isInBase isHexDigit cs
  | '0' :: 'o' :: cs => isInBase isOctalDigit cs
  | '0' :: 'b' :: cs => isInBase isBinaryDigit cs
  | cs => isUnsigned false cs

/-- Whether a text is a truth value. -/
def isTruth (cs : List Char) : Bool := cs == ['t', 'r', 'u', 'e'] || cs == ['f', 'a', 'l', 's', 'e']

end Toml

end AccessLayer
