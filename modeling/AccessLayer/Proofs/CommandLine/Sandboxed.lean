import AccessLayer.CommandLine.Command
import AccessLayer.Proofs.Run.Course

namespace AccessLayer

namespace Tree

/-- The settings in a file that is there. -/
def settingsAt (t : Tree) (p : Path) : Except SettingsError Settings :=
  match t.readText p with
  | .error fault => .error (.unreadable p fault)
  | .ok text =>
    match Settings.ofText? text with
    | some found => .ok found
    | none => .error (.malformed p)

/-- The settings for a schema: those of the named file, which has to be there, or else those of the
    file next to the schema, if there is one. -/
def settings (t : Tree) (schema : Path) : Option Path → Except SettingsError Settings
  | some p => if t.entry? p = some .file then t.settingsAt p else .error (.missing p)
  | none =>
    if t.entry? (Settings.beside schema) = some .file then t.settingsAt (Settings.beside schema)
    else .ok .empty

end Tree

/-- The options of a run that a command carries out, which looks at the cancellation flag. -/
def Settings.runOptions (found : Settings) (schema : Path) (o : Overrides) : Options :=
  { found.options schema o with watched := true }

namespace CommandLine

open Sandbox (host bind_apply)

private theorem isFile_apply (p : Path) (s : Sandbox) :
    host.isFile p s = (decide (s.tree.entry? p = some .file), s) := by
  have hfile : host.isFile p s = (s.tree.entry? p == some .file, s) := by
    simp only [Host.isFile, Sandbox.host]
    rfl
  rw [hfile, Bool.beq_eq_decide_eq]

private theorem readText_apply (p : Path) (s : Sandbox) :
    host.readText p s = (s.tree.readText p, s) := by
  simp only [Sandbox.host]

private theorem find_apply (named : Option Path) (schema : Path) (s : Sandbox) :
    Settings.find host named schema s =
      (match named with
        | some p => if s.tree.entry? p = some .file then .ok (some p) else .error (.missing p)
        | none =>
          .ok (if s.tree.entry? (Settings.beside schema) = some .file then
            some (Settings.beside schema) else none), s) := by
  cases named with
  | some p =>
    rw [Settings.find, bind_apply (isFile_apply p s)]
    by_cases hfile : s.tree.entry? p = some .file <;> simp [hfile] <;> rfl
  | none =>
    have hdetect : Settings.detect host schema s =
        (if s.tree.entry? (Settings.beside schema) = some .file then
          some (Settings.beside schema) else none, s) := by
      rw [Settings.detect, bind_apply (isFile_apply _ s)]
      by_cases hfile : s.tree.entry? (Settings.beside schema) = some .file <;> simp [hfile] <;> rfl
    rw [Settings.find, bind_apply hdetect]
    rfl

private theorem load_apply {p : Path} {s : Sandbox} (h : s.tree.entry? p = some .file) :
    Settings.load host p s = ((s.tree.settingsAt p).map some, s) := by
  have hentry : host.entry? p s = (some .file, s) := by
    rw [← h]
    rfl
  rw [Settings.load, bind_apply hentry, Tree.settingsAt]
  simp only [bind_apply (readText_apply p s)]
  cases s.tree.readText p with
  | error fault => rfl
  | ok text =>
    simp only
    cases Settings.ofText? text <;> rfl

/-- A command looks for its settings and touches nothing. -/
theorem settingsFor_apply (schema : Path) (named : Option Path) (s : Sandbox) :
    settingsFor host schema named s = (s.tree.settings schema named, s) := by
  have hfound {p : Path} (hfile : s.tree.entry? p = some .file)
      (hfind : Settings.find host named schema s = (.ok (some p), s)) :
      settingsFor host schema named s = (s.tree.settingsAt p, s) := by
    rw [settingsFor, bind_apply hfind]
    simp only [bind_apply (load_apply hfile)]
    cases s.tree.settingsAt p <;> rfl
  have hfind := find_apply named schema s
  cases named with
  | some p =>
    by_cases hfile : s.tree.entry? p = some .file
    · simp only [if_pos hfile] at hfind
      rw [hfound hfile hfind, Tree.settings, if_pos hfile]
    · simp only [if_neg hfile] at hfind
      rw [settingsFor, bind_apply hfind, Tree.settings, if_neg hfile]
      rfl
  | none =>
    by_cases hfile : s.tree.entry? (Settings.beside schema) = some .file
    · simp only [if_pos hfile] at hfind
      rw [hfound hfile hfind, Tree.settings, if_pos hfile]
    · simp only [if_neg hfile] at hfind
      rw [settingsFor, bind_apply hfind, Tree.settings, if_neg hfile]
      rfl

section Generate

variable {schema : Path} {named : Option Path} {o : Overrides} {s s' : Sandbox} {found : Settings}

/-- Without its settings a command does nothing. -/
theorem generate_of_no_settings {e : SettingsError} (h : s.tree.settings schema named = .error e) :
    generate host schema named o s = (.failed (.settings e), s) := by
  rw [generate, bind_apply (settingsFor_apply schema named s), h]
  rfl

private theorem generate_of_settings (h : s.tree.settings schema named = .ok found) :
    generate host schema named o s =
      (Run.generate host (found.runOptions schema o) >>= fun
        | .error e => pure (.failed (.run e))
        | .ok report => pure (reported report)) s := by
  rw [generate, bind_apply (settingsFor_apply schema named s), h]
  rfl

/-- With its settings a command carries out the run for which they ask, and fails as it does. -/
theorem generate_of_stop (h : s.tree.settings schema named = .ok found) {stop : RunError}
    (hrun : Run.generate host (found.runOptions schema o) s = (.error stop, s')) :
    generate host schema named o s = (.failed (.run stop), s') := by
  rw [generate_of_settings h, bind_apply hrun]
  rfl

/-- With its settings a command carries out the run for which they ask, and prints the report of
    that run. -/
theorem generate_of_report (h : s.tree.settings schema named = .ok found) {r : Report}
    (hrun : Run.generate host (found.runOptions schema o) s = (.ok r, s')) :
    generate host schema named o s = (reported r, s') := by
  rw [generate_of_settings h, bind_apply hrun]
  rfl

end Generate

/-- A command that shows tables reads the schema and touches nothing. What is a file and no text
    fails otherwise than what is no file. -/
theorem showTables_apply (schema : Path) (format : Format) (s : Sandbox) :
    showTables host schema format s =
      (match s.tree.readText schema with
        | .ok text => .printed (inspect format (readSchema text))
        | .error fault =>
          if s.tree.entry? schema = some .file then .failed (.unreadableSchema schema fault)
          else .failed (.run (.unusableSchema schema none)), s) := by
  rw [showTables, bind_apply (isFile_apply schema s)]
  by_cases hfile : s.tree.entry? schema = some .file
  · rw [if_pos (by simpa using hfile), bind_apply (readText_apply schema s)]
    cases s.tree.readText schema with
    | ok text => rfl
    | error fault =>
      simp only [if_pos hfile]
      rfl
  · rw [if_neg (by simpa using hfile)]
    cases htext : s.tree.readText schema with
    | ok text => exact absurd (Run.isFile_of_readText htext) hfile
    | error fault =>
      simp only [if_neg hfile]
      rfl

end CommandLine

end AccessLayer
