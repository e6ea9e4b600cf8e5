import AccessLayer.Files.Host
import AccessLayer.Run.Options
import AccessLayer.Toml.Reader

namespace AccessLayer

/-- What a settings file says; each setting may be left out. They stand under those of the command
    line and over the defaults. -/
structure Settings where
  language : Option String
  output : Option Path
  name : Option String
  policy : Option WritePolicy
  deriving DecidableEq, Repr

/-- What the command line says; what it leaves out is left to the settings file. -/
structure Overrides where
  language : Option String
  output : Option Path
  name : Option String
  continueOnError : Bool
  dryRun : Bool
  deriving DecidableEq, Repr

/-- Why there are no settings. -/
inductive SettingsError
  | missing (path : Path)
  | unreadable (path : Path) (cause : FileFault)
  | malformed (path : Path)
  deriving DecidableEq, Repr

/-- What is said about a failure, without its cause. -/
def SettingsError.message : SettingsError → String
  | missing path => "config file not found (--config): " ++ path.text
  | unreadable path _ => "Failed to read config: " ++ path.text
  | malformed path => "Failed to parse config: " ++ path.text

namespace Settings

open Toml

/-- The settings that leave everything to others. -/
def empty : Settings := ⟨none, none, none, none⟩

/-- The name of a settings file that is not named. -/
def fileName : Path := ⟨"daogen.toml"⟩

/-- The policy of that name. -/
def policyOfName? : String → Option WritePolicy
  | "abort" => some .abort
  | "continue" => some .continue
  | _ => none

/-- A policy is a name, or a table in which the name stands for an empty table or list. -/
def policy? : Node → Option WritePolicy
  | .text s => policyOfName? s
  | .table _ [(key, .table _ [])] => policyOfName? key
  | .table _ [(key, .list [])] => policyOfName? key
  | _ => none

/-- The text in a node. -/
def text? : Node → Option String
  | .text s => some s
  | _ => none

/-- Adds one entry of the `generate` table. -/
def withEntry (s : Settings) (entry : String × Node) : Option Settings :=
  match entry.1 with
  | "lang" => (text? entry.2).map fun t => { s with language := some t }
  | "output" => (text? entry.2).map fun t => { s with output := some ⟨t⟩ }
  | "name" => (text? entry.2).map fun t => { s with name := some t }
  | "on_write_error" => (policy? entry.2).map fun p => { s with policy := some p }
  | _ => none

/-- The settings in the value of `generate`: a table with some of them, or a list that begins with
    all of them in their order. What follows them in the list does not count. -/
def ofNode? : Node → Option Settings
  | .table _ entries => entries.foldlM withEntry empty
  | .list items =>
    if 4 ≤ items.length then
      (["lang", "output", "name", "on_write_error"].zip items).foldlM withEntry empty
    else none
  | _ => none

/-- The settings in a document, which holds nothing but `generate`. -/
def ofText? (text : String) : Option Settings := do
  match ← document? text with
  | [] => some empty
  | [("generate", node)] => ofNode? node
  | _ => none

variable {m : Type → Type} [Monad m]

/-- The settings in a file; `none` if nothing is there. -/
def load (h : Host m) (p : Path) : m (Except SettingsError (Option Settings)) := do
  match ← h.entry? p with
  | none => return .ok none
  | some _ =>
    match ← h.readText p with
    | .error fault => return .error (.unreadable p fault)
    | .ok text =>
      match ofText? text with
      | some s => return .ok (some s)
      | none => return .error (.malformed p)

/-- The path of the settings file next to a schema. -/
def beside (schema : Path) : Path :=
  match schema.parent? with
  | some up => (if up.text.isEmpty then ⟨"."⟩ else up : Path).join fileName
  | none => Path.join ⟨"."⟩ fileName

/-- The settings file of a schema, if it is there. -/
def detect (h : Host m) (schema : Path) : m (Option Path) := do
  return if ← h.isFile (beside schema) then some (beside schema) else none

/-- The settings file of a run: the one that is named, which must be there, or the one next to the
    schema, if any. -/
def find (h : Host m) (named : Option Path) (schema : Path) :
    m (Except SettingsError (Option Path)) := do
  match named with
  | some p => return if ← h.isFile p then .ok (some p) else .error (.missing p)
  | none => return .ok (← detect h schema)

/-- The options of a run: the command line first, then the file, then the defaults. -/
def options (s : Settings) (schema : Path) (o : Overrides) : Options where
  schema := schema
  language := (o.language.or s.language).getD Options.defaultLanguage
  output := (o.output.or s.output).getD Options.defaultOutput
  service := (o.name.or s.name).getD Options.defaultService
  policy := if o.continueOnError then .continue else s.policy.getD .abort
  dryRun := o.dryRun
  watched := false

end Settings

end AccessLayer
