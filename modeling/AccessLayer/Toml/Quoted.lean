import AccessLayer.Text.Blank

namespace AccessLayer

namespace Toml

/-- What is read from the front of a text, and what follows it. -/
abbrev Found (α : Type) := α × List Char

/-- Characters that stand for themselves in every kind of text: no control character but the tab. -/
def isTextChar (c : Char) : Bool := c == '\t' || (32 ≤ c.toNat && c.toNat != 127)

/-- The value of a digit to base sixteen, in either case. -/
def hexValue? (c : Char) : Option Nat :=
  if c.isDigit then some (c.toNat - 48)
  else if 'a' ≤ c ∧ c ≤ 'f' then some (c.toNat - 87)
  else if 'A' ≤ c ∧ c ≤ 'F' then some (c.toNat - 55)
  else none

/-- The character whose code point is written in exactly `count` hexadecimal digits. -/
def codePoint? (count : Nat) (cs : List Char) : Option (Found Char) := do
  let digits := cs.take count
  if digits.length = count then
    let n ← digits.foldlM (fun n c => (hexValue? c).map fun d => n * 16 + d) 0
    if n.isValidChar then some (Char.ofNat n, cs.drop count) else none
  else none

/-- The character that an escape stands for, after the backslash. -/
def escape? : List Char → Option (Found Char)
  | 'b' :: cs => some (Char.ofNat 8, cs)
  | 't' :: cs => some ('\t', cs)
  | 'n' :: cs => some ('\n', cs)
  | 'f' :: cs => some (Char.ofNat 12, cs)
  | 'r' :: cs => some ('\r', cs)
  | 'e' :: cs => some (Char.ofNat 27, cs)
  | '"' :: cs => some ('"', cs)
  | '\\' :: cs => some ('\\', cs)
  | 'x' :: cs => codePoint? 2 cs
  | 'u' :: cs => codePoint? 4 cs
  | 'U' :: cs => codePoint? 8 cs
  | _ => none

/-- What follows a line break at the front. -/
def afterNewline? : List Char → Option (List Char)
  | '\n' :: cs => some cs
  | '\r' :: '\n' :: cs => some cs
  | _ => none

/-- The blanks that may stand within a line. -/
def isGap (c : Char) : Bool := c == ' ' || c == '\t'

/-- Drops blanks and line breaks. -/
def dropLayout : List Char → List Char
  | ' ' :: cs => dropLayout cs
  | '\t' :: cs => dropLayout cs
  | '\n' :: cs => dropLayout cs
  | '\r' :: '\n' :: cs => dropLayout cs
  | cs => cs

/-- The rest of a literal text on one line, and what follows its quote. -/
def literal : List Char → Option (Found (List Char))
  | [] => none
  | c :: cs =>
    if c = '\'' then some ([], cs)
    else if isTextChar c then (literal cs).map fun found => (c :: found.1, found.2)
    else none

/-- The rest of a text with escapes on one line. Every step takes a character, so the length of the
    input is fuel enough. -/
def basic : Nat → List Char → Option (Found (List Char))
  | 0, _ => none
  | _, [] => none
  | fuel + 1, c :: cs =>
    if c = '"' then some ([], cs)
    else if c = '\\' then do
      let (d, rest) ← escape? cs
      (basic fuel rest).map fun found => (d :: found.1, found.2)
    else if isTextChar c then (basic fuel cs).map fun found => (c :: found.1, found.2)
    else none

/-- The end of a text on several lines: three quotes, with up to two of the text's own before. -/
def closing? (quote : Char) (cs : List Char) : Option (Found (List Char)) :=
  let run := (cs.take 5).takeWhile (· == quote)
  if 3 ≤ run.length then some (run.drop 3, cs.drop run.length) else none

/-- The rest of a literal text on several lines. -/
def literalLines : List Char → Option (Found (List Char))
  | [] => none
  | c :: cs =>
    match closing? '\'' (c :: cs) with
    | some found => some found
    | none =>
      if isTextChar c || c == '\n' || (c == '\r' && cs.head? == some '\n') then
        (literalLines cs).map fun found => (c :: found.1, found.2)
      else none

/-- The rest of a text with escapes on several lines. A backslash at the end of a line drops the
    break and what is blank after it. -/
def basicLines : Nat → List Char → Option (Found (List Char))
  | 0, _ => none
  | _, [] => none
  | fuel + 1, c :: cs =>
    match closing? '"' (c :: cs) with
    | some found => some found
    | none =>
      if c = '\\' then
        match afterNewline? (cs.dropWhile isGap) with
        | some rest => basicLines fuel (dropLayout rest)
        | none => do
          let (d, rest) ← escape? cs
          (basicLines fuel rest).map fun found => (d :: found.1, found.2)
      else if isTextChar c || c == '\n' || (c == '\r' && cs.head? == some '\n') then
        (basicLines fuel cs).map fun found => (c :: found.1, found.2)
      else none

/-- A text of any kind. A line break right after three quotes does not count. -/
def text? (cs : List Char) : Option (Found String) :=
  let afterFirstBreak (cs : List Char) := (afterNewline? cs).getD cs
  let found :=
    match cs with
    | '"' :: '"' :: '"' :: rest => basicLines (rest.length + 1) (afterFirstBreak rest)
    | '\'' :: '\'' :: '\'' :: rest => literalLines (afterFirstBreak rest)
    | '"' :: rest => basic (rest.length + 1) rest
    | '\'' :: rest => literal rest
    | _ => none
  found.map fun (s, rest) => (String.ofList s, rest)

end Toml

end AccessLayer
