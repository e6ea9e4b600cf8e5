import AccessLayer.Artifact.Kind
import AccessLayer.Files.Fault
import AccessLayer.Run.Report

namespace AccessLayer

/-- Why a run ends without a full report. -/
inductive RunError
  /-- The schema is not a file, or cannot be read as text. -/
  | unusableSchema (path : Path) (cause : Option FileFault)
  /-- No emitter is registered for the language that is asked for. -/
  | unsupported (asked : String) (supported : List String)
  /-- An artifact could not be written; those before it are. -/
  | unwritten (path : Path) (cause : FileFault)
  /-- An artifact could not be rendered, so none of its table is written. -/
  | unrendered (table : String) (kind : Kind) (cause : String)
  /-- The run was cancelled between two tables. -/
  | cancelled (report : Report)
  deriving DecidableEq, Repr

namespace RunError

/-- What is said about a failure, without its cause. -/
def message : RunError → String
  | unusableSchema path _ => "schema file not found or unreadable: " ++ path.text
  | unsupported asked supported =>
    "unsupported language '" ++ asked ++ "' (--lang); supported: " ++ ", ".intercalate supported
  | unwritten path _ => "failed to write " ++ path.text
  | unrendered table kind _ => "failed to render " ++ kind.label ++ " for table '" ++ table ++ "'"
  | cancelled report =>
    "generation cancelled after " ++ Nat.repr report.tables ++ " table(s), " ++
      Nat.repr report.written.length ++ " file(s) written"

/-- The failure behind a failure. -/
def cause? : RunError → Option String
  | unusableSchema _ cause => cause.map (·.message)
  | unsupported .. => none
  | unwritten _ cause => some cause.message
  | unrendered _ _ cause => some cause
  | cancelled _ => none

/-- The exit code of the program: 2 when it was asked for something impossible, 130 when it was
    interrupted, 1 otherwise. -/
def exitCode : RunError → Nat
  | unusableSchema .. | unsupported .. => 2
  | cancelled _ => 130
  | unwritten .. | unrendered .. => 1

end RunError

end AccessLayer
