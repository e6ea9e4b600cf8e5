import AccessLayer.CommandLine.Arguments
import AccessLayer.Run

namespace AccessLayer

namespace CommandLine

/-- Why a command fails. -/
inductive Failure
  | settings (e : SettingsError)
  | run (e : RunError)
  | unreadableSchema (path : Path) (cause : FileFault)
  /-- Some artifacts could not be written, and each was named. -/
  | unwritten (count : Nat)
  deriving DecidableEq, Repr

namespace Failure

/-- The failure and what is behind it, which is said of everything but the text of settings. -/
def message : Failure → String
  | settings e =>
    match e with
    | .unreadable _ cause => e.message ++ ": " ++ cause.message
    | .missing _ | .malformed _ => e.message
  | run e =>
    match e.cause? with
    | some cause => e.message ++ ": " ++ cause
    | none => e.message
  | unreadableSchema path cause => "Failed to read schema: " ++ path.text ++ ": " ++ cause.message
  | unwritten count => Nat.repr count ++ " artifact(s) could not be written"

/-- Only a run has exit codes of its own. -/
def exitCode : Failure → Nat
  | run e => e.exitCode
  | _ => 1

end Failure

/-- What a command has printed, and why it failed if it did. -/
structure Outcome where
  output : String
  complaints : String
  failure : Option Failure
  deriving DecidableEq, Repr

namespace Outcome

/-- A command that ends well, with what it prints. -/
def printed (output : String) : Outcome := ⟨output, "", none⟩

/-- A command that fails before it prints anything. -/
def failed (f : Failure) : Outcome := ⟨"", "", some f⟩

/-- The code with which the program ends. -/
def exitCode (o : Outcome) : Nat := (o.failure.map (·.exitCode)).getD 0

/-- All that goes to the error stream: the complaints, then the failure. -/
def errorText (o : Outcome) : String :=
  o.complaints ++
    match o.failure with
    | some f => "error: " ++ f.message ++ "\n"
    | none => ""

end Outcome

/-- The outcome of a run that ended in a report. -/
def reported (r : Report) : Outcome where
  output :=
    (if r.dryRun then String.join (r.planned.map fun p => p.text ++ "\n") else "") ++
      r.summary ++ "\n"
  complaints :=
    String.join
      (r.failures.map fun f => "failed to write " ++ f.path.text ++ ": " ++ f.message ++ "\n")
  failure := if r.isSuccess then none else some (.unwritten r.failures.length)

variable {m : Type → Type} [Monad m]

/-- The settings for a run: those of the settings file, if there is one. -/
def settingsFor (h : Host m) (schema : Path) (named : Option Path) :
    m (Except SettingsError Settings) := do
  match ← Settings.find h named schema with
  | .error e => return .error e
  | .ok none => return .ok .empty
  | .ok (some p) =>
    match ← Settings.load h p with
    | .error e => return .error e
    | .ok found => return .ok (found.getD .empty)

/-- Generates under the settings for the schema. The run is watched for cancellation. -/
def generate (h : Host m) (schema : Path) (named : Option Path) (o : Overrides) : m Outcome := do
  match ← settingsFor h schema named with
  | .error e => return .failed (.settings e)
  | .ok s =>
    match ← Run.generate h { s.options schema o with watched := true } with
    | .error e => return .failed (.run e)
    | .ok report => return reported report

/-- Shows the tables of a schema. Its text is read as in a run, but what is wrong with it is told in
    other words. -/
def showTables (h : Host m) (schema : Path) (format : Format) : m Outcome := do
  if ← h.isFile schema then
    match ← h.readText schema with
    | .error fault => return .failed (.unreadableSchema schema fault)
    | .ok text => return .printed (inspect format (readSchema text))
  else return .failed (.run (.unusableSchema schema none))

/-- Carries out a command. What it has printed by the time it fails stays printed. -/
def perform (h : Host m) : Command → m Outcome
  | .generate schema named overrides => generate h schema named overrides
  | .inspect schema format => showTables h schema format
  | .backends => return .printed Registry.builtIn.description

end CommandLine

end AccessLayer
