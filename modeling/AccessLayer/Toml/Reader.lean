import AccessLayer.Toml.Moment
import AccessLayer.Toml.Node
import AccessLayer.Toml.Number

namespace AccessLayer

namespace Toml

/-- Drops blanks at the front. -/
def dropGap (cs : List Char) : List Char := cs.dropWhile isGap

/-- The characters of a key without quotes. -/
def isBareChar (c : Char) : Bool := c.isAlphanum || c == '-' || c == '_'

/-- A key at the front, between quotes or without them. -/
def key? (cs : List Char) : Option (Found String) :=
  match cs with
  | '"' :: rest => (basic (rest.length + 1) rest).map fun (s, rest) => (String.ofList s, rest)
  | '\'' :: rest => (literal rest).map fun (s, rest) => (String.ofList s, rest)
  | _ =>
    let bare := cs.takeWhile isBareChar
    if bare.isEmpty then none else some (String.ofList bare, cs.dropWhile isBareChar)

/-- Keys with dots between them, and gaps around the dots. -/
def keys? : Nat → List Char → Option (Found (List String))
  | 0, _ => none
  | fuel + 1, cs => do
    let (key, rest) ← key? (dropGap cs)
    match dropGap rest with
    | '.' :: rest => (keys? fuel rest).map fun (keys, rest) => (key :: keys, rest)
    | rest => some ([key], rest)

/-- Drops a comment at the front, up to the end of its line; `none` if it holds what no text may. -/
def afterComment? (cs : List Char) : Option (List Char) :=
  match cs with
  | '#' :: rest =>
    let tail := rest.dropWhile isTextChar
    if tail.isEmpty || (afterNewline? tail).isSome then some tail else none
  | _ => some cs

/-- Drops gaps, comments and line breaks. -/
def dropLines : Nat → List Char → Option (List Char)
  | 0, _ => none
  | fuel + 1, cs => do
    let rest ← afterComment? (dropGap cs)
    match afterNewline? rest with
    | some next => dropLines fuel next
    | none => some rest

/-- The rest of a line must be blank but for a comment. -/
def endOfLine? (cs : List Char) : Option (List Char) := do
  let rest ← afterComment? (dropGap cs)
  if rest.isEmpty then some [] else afterNewline? rest

/-- Characters at which a value without quotes ends. -/
def bareEnds : List Char := ['=', ',', '[', ']', '\x7b', '\x7d', ' ', '\t', '#', '\r', '\n']

/-- The characters of a value without quotes. -/
def isBareValueChar (c : Char) : Bool := !bareEnds.contains c

/-- The text of a value without quotes. A space may stand inside, as between a date and a time. -/
def bareText (cs : List Char) : Found (List Char) :=
  let run := cs.takeWhile isBareValueChar
  match cs.dropWhile isBareValueChar with
  | ' ' :: rest =>
    if rest.head?.any isBareValueChar then
      (run ++ ' ' :: rest.takeWhile isBareValueChar, rest.dropWhile isBareValueChar)
    else (run, ' ' :: rest)
  | rest => (run, rest)

/-- A value without quotes at the front. Numbers, truth values and dates keep their text, since no
    setting takes one. -/
def bare? (cs : List Char) : Option (Found String) :=
  let (text, rest) := bareText cs
  if isTruth text || isNumber text || isMoment text then some (String.ofList text, rest) else none

/-- A value that holds no other: a text, or one without quotes. -/
def scalar? (cs : List Char) : Option (Found Node) :=
  match cs with
  | '"' :: _ => (text? cs).map fun (s, rest) => (.text s, rest)
  | '\'' :: _ => (text? cs).map fun (s, rest) => (.text s, rest)
  | _ => (bare? cs).map fun (s, rest) => (.bare s, rest)

/-- How many lists and tables between braces may stand one inside the other. -/
def maxDepth : Nat := 80

mutual

/-- A value: a scalar, a list or a table between braces; at most `depth` of them may be open. -/
def value? : (fuel depth : Nat) → List Char → Option (Found Node)
  | 0, _, _ => none
  | _, 0, '[' :: _ => none
  | _, 0, '\x7b' :: _ => none
  | fuel + 1, depth + 1, '[' :: rest => do
    let rest ← dropLines (rest.length + 1) rest
    (items? fuel depth rest).map fun (items, rest) => (.list items, rest)
  | fuel + 1, depth + 1, '\x7b' :: rest => do
    let rest ← dropLines (rest.length + 1) rest
    (entries? fuel depth [] rest).map fun (entries, rest) => (.table .inline entries, rest)
  | _, _, cs => scalar? cs

/-- The items of a list up to its bracket. A comma may stand after the last. -/
def items? : (fuel depth : Nat) → List Char → Option (Found (List Node))
  | 0, _, _ => none
  | fuel + 1, depth, cs =>
    match cs with
    | ']' :: rest => some ([], rest)
    | _ => do
      let (item, rest) ← value? fuel depth cs
      let rest ← dropLines (rest.length + 1) rest
      match rest with
      | ',' :: rest =>
        let rest ← dropLines (rest.length + 1) rest
        (items? fuel depth rest).map fun (items, rest) => (item :: items, rest)
      | ']' :: rest => some ([item], rest)
      | _ => none

/-- The entries of a table up to its brace. A comma may stand after the last, and lines may end
    anywhere but inside a dotted key. -/
def entries? : (fuel depth : Nat) → Entries → List Char → Option (Found Entries)
  | 0, _, _, _ => none
  | fuel + 1, depth, entries, cs =>
    match cs with
    | '\x7d' :: rest => some (entries, rest)
    | _ => do
      let (keys, rest) ← keys? (cs.length + 1) cs
      let rest ← dropLines (rest.length + 1) rest
      match rest with
      | '=' :: rest =>
        let rest ← dropLines (rest.length + 1) rest
        let (value, rest) ← value? fuel depth rest
        let entries ← Entries.define value keys entries
        let rest ← dropLines (rest.length + 1) rest
        match rest with
        | ',' :: rest =>
          let rest ← dropLines (rest.length + 1) rest
          entries? fuel depth entries rest
        | '\x7d' :: rest => some (entries, rest)
        | _ => none
      | _ => none

end

/-- What one expression adds to a document, and the table that later keys belong to. -/
def expression? (entries : Entries) (current : List String) (cs : List Char) :
    Option (Entries × List String × List Char) :=
  match cs with
  | '[' :: '[' :: rest => do
    let (keys, rest) ← keys? (rest.length + 1) rest
    match rest with
    | ']' :: ']' :: rest =>
      let entries ← entries.within (Entries.openNext (keys.getLast?.getD "")) keys.dropLast
      some (entries, keys, ← endOfLine? rest)
    | _ => none
  | '[' :: rest => do
    let (keys, rest) ← keys? (rest.length + 1) rest
    match rest with
    | ']' :: rest =>
      let entries ← entries.within (Entries.openTable (keys.getLast?.getD "")) keys.dropLast
      some (entries, keys, ← endOfLine? rest)
    | _ => none
  | _ => do
    let (keys, rest) ← keys? (cs.length + 1) cs
    match rest with
    | '=' :: rest =>
      let (value, rest) ← value? (rest.length + 1) maxDepth (dropGap rest)
      let entries ← entries.within (Entries.define value keys) current
      some (entries, current, ← endOfLine? rest)
    | _ => none

/-- The expressions of a document, one after the other. -/
def expressions? : Nat → Entries → List String → List Char → Option Entries
  | 0, _, _, _ => none
  | fuel + 1, entries, current, cs => do
    let rest ← dropLines (cs.length + 1) cs
    if rest.isEmpty then some entries
    else
      let (entries, current, rest) ← expression? entries current rest
      expressions? fuel entries current rest

/-- The tables of a document. A mark of byte order at the front is skipped. -/
def document? (text : String) : Option Entries :=
  let cs :=
    match text.toList with
    | '\ufeff' :: rest => rest
    | cs => cs
  expressions? (cs.length + 1) [] [] cs

end Toml

end AccessLayer
