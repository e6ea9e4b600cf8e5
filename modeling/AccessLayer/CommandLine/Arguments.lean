import AccessLayer.CommandLine.Grammar
import AccessLayer.Inspect
import AccessLayer.Settings

namespace AccessLayer

namespace CommandLine

/-- What the program is asked to do. -/
inductive Command
  | generate (schema : Path) (settings : Option Path) (overrides : Overrides)
  | inspect (schema : Path) (format : Format)
  | backends
  deriving DecidableEq, Repr

/-- The word that asks for a command. -/
def Command.name : Command → String
  | generate .. => "generate"
  | inspect .. => "inspect"
  | backends => "backends"

/-- A command, and whether it is logged in detail. -/
structure Invocation where
  command : Command
  verbose : Bool
  deriving DecidableEq, Repr

/-- What is said when the version is asked for. -/
def versionText : String := "daogen 0.1.0\n"

/-- What is said when help is asked for, or is needed. -/
def usageText : String :=
  "Generate DAO code from a SQL schema\n\n" ++
    "Usage: daogen [OPTIONS] <COMMAND>\n\n" ++
    "Commands:\n" ++
    "  generate  Generate model/DAO/store/mock files for every table in a schema\n" ++
    "  inspect   Print the parsed tables without generating anything\n" ++
    "  backends  List the registered backends and their type catalogs\n" ++
    "  help      Print this message\n\n" ++
    "Options:\n" ++
    "  -v, --verbose  Log at debug level (overrides DAOGEN_LOG_LEVEL)\n" ++
    "  -h, --help     Print help\n" ++
    "  -V, --version  Print version\n"

/-- What is wrong with a command line, where anything is. -/
def UsageError.complaint? : UsageError → Option String
  | .help | .version | .nothingAsked => none
  | .missingCommand => some "a command is missing"
  | .unknownCommand => some "there is no such command"
  | .unknownArgument => some "there is no place for an argument"
  | .badValue => some "the value of an option is missing, or is none that it takes"
  | .repeated => some "an option is given twice"
  | .needlessValue => some "a value is given to an option that takes none"
  | .missingOperand => some "the schema is missing"

/-- What is said to a command line that is not carried out. -/
def UsageError.answer (e : UsageError) : String :=
  match e with
  | .version => versionText
  | _ =>
    match e.complaint? with
    | some complaint => "error: " ++ complaint ++ "\n\n" ++ usageText
    | none => usageText

private def helpSwitch : Switch := ⟨"help", some 'h', .help⟩

private def verboseSwitch : Switch := ⟨"verbose", some 'v', .flag⟩

/-- A path may be anything but empty. -/
private def takesPath : Effect := .value fun v => !v.isEmpty

private def takesAnything : Effect := .value fun _ => true

/-- Only the names of formats are taken. -/
private def takesFormat : Effect := .value fun v => (Format.ofName? v).isSome

/-- What every level of the command line knows. -/
private def shared : List Switch := [helpSwitch, verboseSwitch]

/-- What stands before the command. -/
def topLevel : Level where
  switches := shared ++ [⟨"version", some 'V', .version⟩]
  operand := none
  commands := ["generate", "inspect", "backends", "help"]

private def schemaOperand : Switch := ⟨"schema", none, takesPath⟩

/-- What may stand behind the command that generates. -/
def generateLevel : Level where
  switches := shared ++
    [⟨"lang", some 'l', takesAnything⟩, ⟨"output", some 'o', takesPath⟩,
     ⟨"name", some 'n', takesAnything⟩, ⟨"config", none, takesPath⟩,
     ⟨"continue-on-error", none, .flag⟩, ⟨"dry-run", none, .flag⟩]
  operand := some schemaOperand
  commands := []

/-- What may stand behind the command that shows tables. -/
def inspectLevel : Level where
  switches := shared ++ [⟨"format", some 'f', takesFormat⟩]
  operand := some schemaOperand
  commands := []

/-- What may stand behind the command that shows languages. -/
def backendsLevel : Level where
  switches := shared
  operand := none
  commands := []

/-- Help on a command is help; a command of a command is not known. -/
def helpOn : List String → UsageError
  | [] => .help
  | [name] => if topLevel.commands.contains name then .help else .unknownCommand
  | _ => .unknownCommand

/-- The path given as the operand. -/
private def schemaOf (p : Progress) : Except UsageError Path :=
  match p.value? "schema" with
  | some s => .ok ⟨s⟩
  | none => .error .missingOperand

private def pathOf? (p : Progress) (name : String) : Option Path := (p.value? name).map Path.mk

/-- A command from what follows its name, and whether its own level asks for detail. -/
def command (name : String) (args : List String) : Except UsageError (Command × Bool) := do
  match name with
  | "generate" =>
    let (p, _) ← generateLevel.read false .start args
    let schema ← schemaOf p
    .ok (.generate schema (pathOf? p "config")
      ⟨p.value? "lang", pathOf? p "output", p.value? "name", p.has "continue-on-error",
        p.has "dry-run"⟩, p.has "verbose")
  | "inspect" =>
    let (p, _) ← inspectLevel.read false .start args
    let schema ← schemaOf p
    .ok (.inspect schema (((p.value? "format").bind Format.ofName?).getD .text), p.has "verbose")
  | "backends" =>
    let (p, _) ← backendsLevel.read false .start args
    .ok (.backends, p.has "verbose")
  | _ => .error (helpOn args)

/-- The invocation that a command line stands for, without the program's own name. -/
def parse (args : List String) : Except UsageError Invocation := do
  let (p, found) ← topLevel.read false .start args
  match found with
  | none => .error (if p.given.isEmpty then .nothingAsked else .missingCommand)
  | some (name, rest) =>
    let (command, verbose) ← command name rest
    .ok ⟨command, p.has "verbose" || verbose⟩

end CommandLine

end AccessLayer
