import AccessLayer.Text.Blank

namespace AccessLayer

namespace YamlScalar

/-- The value of a digit to a base of at most sixteen. -/
def digitValue? (base : Nat) (c : Char) : Option Nat :=
  let value :=
    if c.isDigit then c.toNat - 48
    else if 'a' ≤ c ∧ c ≤ 'f' then c.toNat - 87
    else if 'A' ≤ c ∧ c ≤ 'F' then c.toNat - 55
    else base
  if value < base then some value else none

/-- The number that digits stand for; `none` without a digit. -/
def natural? (base : Nat) (cs : List Char) : Option Nat :=
  if cs.isEmpty then none
  else cs.foldlM (fun n c => (digitValue? base c).map fun d => n * base + d) 0

/-- Several digits that start with zero, after a sign or none: text for some readers, a number for
    others. -/
def isPaddedNumber (cs : List Char) : Bool :=
  let digits :=
    match cs with
    | '+' :: rest | '-' :: rest => rest
    | _ => cs
  digits.length > 1 && digits.head? == some '0' && digits.all (·.isDigit)

/-- A whole number below `2 ^ 128`, after a plus sign or none. A base may be named. -/
def isUnsigned (cs : List Char) : Bool :=
  let digits :=
    match cs with
    | '+' :: rest => rest
    | _ => cs
  let fits (n : Option Nat) : Bool := n.any (· < Nat.pow 2 128)
  match digits with
  | '0' :: 'x' :: rest => fits (natural? 16 rest)
  | '0' :: 'o' :: rest => fits (natural? 8 rest)
  | '0' :: 'b' :: rest => fits (natural? 2 rest)
  | _ => !isPaddedNumber cs && fits (natural? 10 digits)

/-- A whole number from `-2 ^ 127`, after a minus sign. A base may be named. -/
def isNegative (cs : List Char) : Bool :=
  let fits (n : Option Nat) : Bool := n.any (· ≤ Nat.pow 2 127)
  match cs with
  | '-' :: '0' :: 'x' :: rest => fits (natural? 16 rest)
  | '-' :: '0' :: 'o' :: rest => fits (natural? 8 rest)
  | '-' :: '0' :: 'b' :: rest => fits (natural? 2 rest)
  | '-' :: rest => !isPaddedNumber cs && fits (natural? 10 rest)
  | _ => false

/-- The digits at the start of a text, and what follows them. -/
def splitDigits (cs : List Char) : List Char × List Char :=
  (cs.takeWhile (·.isDigit), cs.dropWhile (·.isDigit))

/-- The exponent at the end of a number: its sign and digits. Nothing at all stands for zero. -/
def exponent? : List Char → Option (Bool × Nat)
  | [] => some (false, 0)
  | e :: rest =>
    if e = 'e' ∨ e = 'E' then
      match rest with
      | '-' :: digits => (natural? 10 digits).map fun n => (true, n)
      | '+' :: digits => (natural? 10 digits).map fun n => (false, n)
      | digits => (natural? 10 digits).map fun n => (false, n)
    else none

/-- The least number that is nearer to infinity than to any double. -/
def overflowBound : Nat := Nat.pow 2 1024 - Nat.pow 2 970

/-- Whether a number is below the bound: `mantissa`, which has `digits` digits with `places` of them
    after the point, times a power of ten. An exponent that the digits cannot make up for settles it
    without the power. -/
def isFinite (mantissa digits places : Nat) (negative : Bool) (exponent : Nat) : Bool :=
  if negative then
    exponent ≥ digits || mantissa < overflowBound * Nat.pow 10 (places + exponent)
  else if exponent > places + 400 then mantissa == 0
  else mantissa * Nat.pow 10 exponent < overflowBound * Nat.pow 10 places

/-- A finite decimal number: digits with or without a point and an exponent, at least one digit. -/
def isDecimal (cs : List Char) : Bool :=
  let body :=
    match cs with
    | '-' :: rest | '+' :: rest => rest
    | _ => cs
  let (whole, afterWhole) := splitDigits body
  let (fraction, afterFraction) :=
    match afterWhole with
    | '.' :: rest => splitDigits rest
    | _ => ([], afterWhole)
  match natural? 10 (whole ++ fraction), exponent? afterFraction with
  | some mantissa, some (negative, exponent) =>
    isFinite mantissa (whole.length + fraction.length) fraction.length negative exponent
  | _, _ => false

/-- A number with a point or an exponent, an infinity or what is not a number. -/
def isFloat (s : String) : Bool :=
  let cs := s.toList
  let unsigned :=
    match cs with
    | '+' :: rest => rest
    | _ => cs
  let signTwice :=
    match cs with
    | '+' :: '+' :: _ | '+' :: '-' :: _ => true
    | _ => false
  if signTwice then false
  else if [".inf", ".Inf", ".INF"].contains (String.ofList unsigned) then true
  else if ["-.inf", "-.Inf", "-.INF", ".nan", ".NaN", ".NAN"].contains s then true
  else isDecimal unsigned

/-- The spellings of nothing and of truth values. -/
def reservedWords : List String :=
  ["", "null", "Null", "NULL", "~", "true", "True", "TRUE", "false", "False", "FALSE"]

/-- Whether a text would read back as something else, or is often taken for it. -/
def isAmbiguous (s : String) : Bool :=
  reservedWords.contains s || isUnsigned s.toList || isNegative s.toList ||
    isPaddedNumber s.toList || isFloat s

/-- Whether a character is written as it is. -/
def isPrintable (c : Char) : Bool :=
  let n := c.toNat
  n == 0xa || (0x20 ≤ n && n ≤ 0x7e) || (0xa0 ≤ n && n ≤ 0xd7ff) ||
    (0xe000 ≤ n && n ≤ 0xfffd && n != 0xfeff) || 0x10000 ≤ n

/-- Where a line ends. -/
def isBreak (c : Char) : Bool := [0xa, 0xd, 0x85, 0x2028, 0x2029].contains c.toNat

/-- A space, a tab, the end of a line or the end of the text. -/
def isGap : Option Char → Bool
  | none => true
  | some c => c == ' ' || c == '\t' || c == Char.ofNat 0 || isBreak c

/-- The characters that mean something else at the start of a plain text. -/
def startMarks : List Char :=
  ['#', ',', '[', ']', '\x7b', '\x7d', '&', '*', '!', '|', '>', '\'', '"', '%', '@', '\x60']

/-- Whether the first character makes a plain text something else. -/
def startsSpecial : List Char → Bool
  | [] => false
  | c :: rest => startMarks.contains c || (['?', ':', '-'].contains c && isGap rest.head?)

/-- Whether a colon before a gap, or a hash after one, stands inside. -/
def hasMark (previous : Char) : List Char → Bool
  | [] => false
  | c :: rest =>
    (c == ':' && isGap rest.head?) || (c == '#' && isGap (some previous)) || hasMark c rest

/-- Whether a text can stand in a document without quotes. One that would read back as something
    else than text is always quoted. -/
def isPlain (s : String) : Bool :=
  match s.toList with
  | [] => false
  | c :: rest =>
    !startsSpecial (c :: rest) && !hasMark c rest && !s.startsWith "---" && !s.startsWith "..." &&
      c != ' ' && s.toList.getLast? != some ' ' &&
      (c :: rest).all fun d => isPrintable d && !isBreak d

/-- Whether a space and a line break stand side by side. -/
def hasRaggedBreak : List Char → Bool
  | c :: d :: rest =>
    (c == ' ' && isBreak d) || (isBreak c && d == ' ') || hasRaggedBreak (d :: rest)
  | _ => false

/-- Whether a text without a line feed can stand between single quotes. -/
def isSingleQuotable (s : String) : Bool :=
  s.toList.all isPrintable && !hasRaggedBreak s.toList

/-- The inside of single quotes: a quote is doubled, and a line goes on `indent` spaces in. -/
def singleQuotedFrom (indent : Nat) : List Char → List Char
  | [] => []
  | c :: rest =>
    let gap :=
      if isBreak c && !rest.head?.any isBreak then List.replicate indent ' ' else []
    (if c = '\'' then ['\'', '\''] else [c]) ++ gap ++ singleQuotedFrom indent rest

/-- The digits of a number in base sixteen, `width` of them, in upper case. -/
def hexDigits (width n : Nat) : List Char :=
  match width with
  | 0 => []
  | w + 1 => hexDigits w (n / 16) ++ ["0123456789ABCDEF".toList.getD (n % 16) '0']

/-- The characters that have an escape of one letter. -/
def shortEscapes : List (Nat × Char) :=
  [(0x0, '0'), (0x7, 'a'), (0x8, 'b'), (0x9, 't'), (0xa, 'n'), (0xb, 'v'), (0xc, 'f'), (0xd, 'r'),
   (0x1b, 'e'), (0x22, '"'), (0x5c, '\\'), (0x85, 'N'), (0xa0, '_'), (0x2028, 'L'), (0x2029, 'P')]

/-- A character as it stands between double quotes. -/
def doubleQuotedChar (c : Char) : List Char :=
  if isPrintable c && !isBreak c && c != '"' && c != '\\' then [c]
  else
    match shortEscapes.lookup c.toNat with
    | some letter => ['\\', letter]
    | none =>
      if c.toNat ≤ 0xff then '\\' :: 'x' :: hexDigits 2 c.toNat
      else if c.toNat ≤ 0xffff then '\\' :: 'u' :: hexDigits 4 c.toNat
      else '\\' :: 'U' :: hexDigits 8 c.toNat

/-- Whether a space stands right before a line break. -/
def hasSpaceBeforeBreak : List Char → Bool
  | c :: d :: rest => (c == ' ' && isBreak d) || hasSpaceBeforeBreak (d :: rest)
  | _ => false

/-- Whether the lines of a text can stand by themselves, without quotes. -/
def isBlock (cs : List Char) : Bool :=
  cs.all isPrintable && cs.getLast? != some ' ' && !hasSpaceBeforeBreak cs

/-- What stands above a block: the step of its indentation where the text starts with a space or a
    line break, and a mark unless the text ends in one line break after something else. -/
def blockHeader (cs : List Char) : List Char :=
  let step := if cs.head?.any fun c => c == ' ' || isBreak c then ['2'] else []
  let ending :=
    match cs.reverse with
    | [] => ['-']
    | [c] => if isBreak c then ['+'] else ['-']
    | c :: d :: _ => if !isBreak c then ['-'] else if isBreak d then ['+'] else []
  '|' :: step ++ ending

/-- The lines of a block, each `indent` spaces in unless it is empty. -/
def blockLines (indent : Nat) (atStart : Bool) : List Char → List Char
  | [] => []
  | c :: rest =>
    if isBreak c then c :: blockLines indent true rest
    else (if atStart then List.replicate indent ' ' else []) ++ c :: blockLines indent false rest

/-- A text between double quotes, which can hold any character. -/
def doubleQuoted (cs : List Char) : String :=
  String.ofList ('"' :: cs.flatMap doubleQuotedChar ++ ['"'])

/-- A text as it is written; where it takes several lines, those after the first stand `indent`
    spaces in. -/
def render (indent : Nat) (s : String) : String :=
  let cs := s.toList
  if cs.contains '\n' then
    if isBlock cs then String.ofList (blockHeader cs ++ '\n' :: blockLines indent true cs)
    else doubleQuoted cs
  else if !isAmbiguous s && isPlain s then s
  else if isSingleQuotable s then
    String.ofList ('\'' :: singleQuotedFrom indent cs ++ ['\''])
  else doubleQuoted cs

end YamlScalar

end AccessLayer
