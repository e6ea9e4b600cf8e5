import AccessLayer.Toml.Quoted

namespace AccessLayer

namespace Toml

/-- The number that is written in exactly `count` digits. -/
def number? (count : Nat) (cs : List Char) : Option (Found Nat) :=
  let digits := cs.take count
  if digits.length = count ∧ digits.all Char.isDigit then
    some (digits.foldl (fun n c => n * 10 + (c.toNat - 48)) 0, cs.drop count)
  else none

/-- A number in two digits that is not above `most`. -/
def upTo? (most : Nat) (cs : List Char) : Option (Found Nat) :=
  (number? 2 cs).filter fun found => found.1 ≤ most

/-- What follows a character at the front. -/
def after? (c : Char) : List Char → Option (List Char)
  | d :: cs => if c = d then some cs else none
  | [] => none

/-- A year has a day more when four divides it, but for the centuries that 400 does not divide. -/
def isLeapYear (year : Nat) : Bool := year % 4 = 0 && (year % 100 != 0 || year % 400 = 0)

/-- How many days a month has. -/
def daysOf (year month : Nat) : Nat :=
  if month = 2 then if isLeapYear year then 29 else 28
  else if [4, 6, 9, 11].contains month then 30
  else 31

/-- What follows a date at the front: a year of four digits, a month and a day of two. -/
def afterDate? (cs : List Char) : Option (List Char) := do
  let (year, cs) ← number? 4 cs
  let (month, cs) ← upTo? 12 (← after? '-' cs)
  let (day, cs) ← upTo? (daysOf year month) (← after? '-' cs)
  if 1 ≤ month ∧ 1 ≤ day then some cs else none

/-- What follows a time of day at the front. Seconds may be missing; a fraction needs them. -/
def afterTime? (cs : List Char) : Option (List Char) := do
  let (_, cs) ← upTo? 23 cs
  let (_, cs) ← upTo? 59 (← after? ':' cs)
  match cs with
  | ':' :: cs =>
    let (_, cs) ← upTo? 60 cs
    match cs with
    | '.' :: cs => if cs.head?.any Char.isDigit then some (cs.dropWhile Char.isDigit) else none
    | cs => some cs
  | cs => some cs

/-- Nothing, the letter of universal time, or hours and minutes away from it. -/
def isOffset (cs : List Char) : Bool :=
  match cs with
  | [] => true
  | c :: cs =>
    if c == 'Z' || c == 'z' then cs.isEmpty
    else (c == '+' || c == '-') &&
      (((upTo? 23 cs).bind fun (_, cs) => after? ':' cs).bind (upTo? 59)).any (·.2.isEmpty)

/-- A date, a time, or a date and a time with a letter or a space between them. -/
def isMoment (cs : List Char) : Bool :=
  match afterDate? cs with
  | some [] => true
  | some (c :: cs) => (c == 'T' || c == 't' || c == ' ') && (afterTime? cs).any isOffset
  | none => (afterTime? cs).any (·.isEmpty)

end Toml

end AccessLayer
