
namespace AccessLayer

namespace CommandLine

/-- Why a command line is refused, or answered at once. -/
inductive UsageError
  | help
  | version
  /-- Nothing is asked for, so help is shown. -/
  | nothingAsked
  | missingCommand
  | unknownCommand
  | unknownArgument
  /-- A value is missing, or is not one that the option takes. -/
  | badValue
  | repeated
  | needlessValue
  | missingOperand
  deriving DecidableEq, Repr

/-- What is asked for is no fault of the user's. -/
def UsageError.exitCode : UsageError → Nat
  | help | version => 0
  | _ => 2

/-- What an option does. -/
inductive Effect
  | help
  | version
  | flag
  | value (accepts : String → Bool)

/-- An option, or an operand, which has no short name and no use for its long one. -/
structure Switch where
  name : String
  short : Option Char
  effect : Effect

/-- What may stand on one level of a command line: before the command, or after it. -/
structure Level where
  switches : List Switch
  operand : Option Switch
  commands : List String

/-- How far a command line is read. -/
structure Progress where
  /-- The options that are settled, with their values. -/
  given : List (String × String)
  /-- The option that is not settled yet. Without a value it takes the next word. -/
  pending : Option (Switch × Option String)
  operandMet : Bool

namespace Progress

/-- Nothing is read yet. -/
def start : Progress := ⟨[], none, false⟩

/-- Whether an option is given. -/
def has (p : Progress) (name : String) : Bool := (p.given.lookup name).isSome

/-- The value that an option is given. -/
def value? (p : Progress) (name : String) : Option String := p.given.lookup name

/-- Settles an option. A missing value is the first fault, a repetition the next. -/
def settle (p : Progress) (s : Switch) (value : Option String) : Except UsageError Progress :=
  match s.effect, value with
  | .help, _ => .error .help
  | .version, _ => .error .version
  | .flag, _ =>
    if p.has s.name then .error .repeated else .ok { p with given := p.given ++ [(s.name, "")] }
  | .value _, none => .error .badValue
  | .value accepts, some v =>
    if p.has s.name then .error .repeated
    else if accepts v then .ok { p with given := p.given ++ [(s.name, v)] }
    else .error .badValue

/-- Settles the option that is pending, now that its value is known to be complete. As this comes so
    late, a fault in a value can give way to a worse fault in what follows. -/
def resolve (p : Progress) : Except UsageError Progress :=
  match p.pending with
  | none => .ok p
  | some (s, value) => settle { p with pending := none } s value

/-- Settles the pending option and then another one. -/
def act (p : Progress) (s : Switch) (value : Option String) : Except UsageError Progress := do
  settle (← p.resolve) s value

/-- Makes an option pending, with its value or before it. -/
def suspend (p : Progress) (s : Switch) (value : Option String) : Except UsageError Progress := do
  return { ← p.resolve with pending := some (s, value) }

end Progress

namespace Level

/-- Splits `name=value` at the first equals sign. -/
def splitLong (cs : List Char) : String × Option String :=
  match cs.dropWhile (· != '=') with
  | _ :: value => (String.ofList (cs.takeWhile (· != '=')), some (String.ofList value))
  | [] => (String.ofList cs, none)

/-- An option by its long name, after the two hyphens. -/
def readLong (l : Level) (p : Progress) (cs : List Char) : Except UsageError Progress :=
  let (name, attached) := splitLong cs
  match l.switches.find? fun s => s.name == name with
  | none => .error .unknownArgument
  | some s =>
    match s.effect, attached with
    | .value _, some v => p.act s (some v)
    | .value _, none => p.suspend s none
    | _, some _ => .error .needlessValue
    | _, none => p.act s none

/-- Options by their short names, after the hyphen. What follows one that takes a value is the
    value, with or without an equals sign. -/
def readShorts (l : Level) (p : Progress) : List Char → Except UsageError Progress
  | [] => .ok p
  | c :: cs =>
    match l.switches.find? fun s => s.short == some c with
    | none => .error .unknownArgument
    | some s =>
      match s.effect, cs with
      | .value _, [] => p.suspend s none
      | .value _, '=' :: v => p.act s (some (String.ofList v))
      | .value _, v => p.act s (some (String.ofList v))
      | _, _ => do readShorts l (← p.act s none) cs

/-- What is wrong with a word for which there is no place. -/
def surplus (l : Level) (afterHyphens : Bool) (word : String) : UsageError :=
  if l.commands.isEmpty || (afterHyphens && l.commands.contains word) then .unknownArgument
  else .unknownCommand

/-- A word that belongs to no option. -/
def readOperand (l : Level) (p : Progress) (afterHyphens : Bool) (word : String) :
    Except UsageError Progress :=
  match l.operand with
  | none => .error (l.surplus afterHyphens word)
  | some s =>
    if p.operandMet then .error (l.surplus afterHyphens word)
    else do return { ← p.suspend s (some word) with operandMet := true }

/-- Reads a level to the end of the line, or to a command and what follows it. After two hyphens
    every word is an operand. -/
def read (l : Level) (afterHyphens : Bool) (p : Progress) :
    List String → Except UsageError (Progress × Option (String × List String))
  | [] => do return (← p.resolve, none)
  | word :: rest =>
    if afterHyphens then do read l true (← l.readOperand p true word) rest
    else if l.commands.contains word then .ok (p, some (word, rest))
    else
      match word.toList with
      | ['-', '-'] => read l true p rest
      | '-' :: '-' :: cs => do read l false (← l.readLong p cs) rest
      | '-' :: c :: cs => do read l false (← l.readShorts p (c :: cs)) rest
      | _ =>
        match p.pending with
        | some (s, none) => read l false { p with pending := some (s, some word) } rest
        | _ => do read l false (← l.readOperand p false word) rest

end Level

end CommandLine

end AccessLayer
