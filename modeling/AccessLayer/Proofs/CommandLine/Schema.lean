import AccessLayer.Proofs.Artifact.Emission
import AccessLayer.Proofs.CommandLine.Sandboxed

namespace AccessLayer

namespace CommandLine

open Sandbox (host)

/-- What the two commands come to with one schema, where the second has its settings and knows its
    language. -/
structure ReadAlike (s : Sandbox) (schema : Path) (format : Format) (l : Language) (o : Options)
    (shown generated : Outcome × Sandbox) : Prop where
  fails_iff : shown.1.failure ≠ none ↔ ∀ text, s.tree.readText schema ≠ .ok text
  together : shown.1.failure = none ↔
    ∀ cause, generated.1.failure ≠ some (.run (.unusableSchema schema cause))
  /-- Without a text the second fails with code 2, and nothing is touched. -/
  generated_unread : (∀ text, s.tree.readText schema ≠ .ok text) →
    ∃ cause, generated = (.failed (.run (.unusableSchema schema cause)), s) ∧
      generated.1.exitCode = 2
  /-- Then the first fails as the second does, but for a file that is no text. -/
  alike_iff : (∀ text, s.tree.readText schema ≠ .ok text) →
    (shown = generated ↔ s.tree.entry? schema ≠ some .file)
  no_text : (∀ text, s.tree.readText schema ≠ .ok text) → s.tree.entry? schema = some .file →
    shown = (.failed (.unreadableSchema schema .notText), s) ∧ shown.1.exitCode = 1
  tables : ∀ text, s.tree.readText schema = .ok text →
    shown = (.printed (inspect format (readSchema text)), s) ∧
      Run.generate host o s = Run.processTables host o (Emitter.builtIn l o.service)
        (.start l o) (readSchema text) s

variable {s : Sandbox} {schema : Path} {named : Option Path} {o : Overrides} {found : Settings}
  {l : Language}

private theorem run_of_language {o : Options} (hlanguage : Language.ofName? o.language = some l) :
    Run.generate host o s =
      match s.tree.readText o.schema with
      | .error _ =>
        (.error (.unusableSchema o.schema
          (if s.tree.entry? o.schema = some .file then some .notText else none)), s)
      | .ok text => Run.processTables host o (Emitter.builtIn l o.service) (.start l o)
          (readSchema text) s := by
  rw [Run.generate, Run.generateWith_apply, Registry.create_builtIn, hlanguage]
  simp only [Option.map_some]
  cases hread : s.tree.readText o.schema with
  | ok text => rfl
  | error fault =>
    by_cases hfile : s.tree.entry? o.schema = some .file
    · rw [Run.notText_of_readText hfile hread]
    · simp only [if_neg hfile]

private theorem failure_ne_unusableSchema {text : String}
    (hsettings : s.tree.settings schema named = .ok found)
    (hlanguage : Language.ofName? (found.runOptions schema o).language = some l)
    (hread : s.tree.readText schema = .ok text) (cause : Option FileFault) :
    (generate host schema named o s).1.failure ≠ some (.run (.unusableSchema schema cause)) := by
  cases hresult : Run.generate host (found.runOptions schema o) s with
  | mk result s' =>
    cases result with
    | error stop =>
      rw [generate_of_stop hsettings hresult]
      rw [run_of_language hlanguage, show (found.runOptions schema o).schema = schema from rfl,
        hread] at hresult
      rcases Run.stop_of_processTables hresult with ⟨_, rfl⟩ | ⟨_, _, _, rfl⟩ | ⟨_, _, rfl⟩ <;>
        simp [Outcome.failed]
    | ok report =>
      rw [generate_of_report hsettings hresult, reported]
      split <;> simp

/-- Both commands read the schema or fail together, and see the same tables. They fail alike exactly
    when it is no file; of a file that is no text only the one that generates says that the schema
    cannot be used. -/
theorem schema_read_alike_unless_no_text (s : Sandbox) (schema : Path) (named : Option Path)
    (o : Overrides) (format : Format) (hsettings : s.tree.settings schema named = .ok found)
    (hlanguage : Language.ofName? (found.runOptions schema o).language = some l) :
    ReadAlike s schema format l (found.runOptions schema o)
      ((perform host (.inspect schema format)).run s)
      ((perform host (.generate schema named o)).run s) := by
  have hshown := showTables_apply schema format s
  have hrun : Run.generate host (found.runOptions schema o) s = _ := run_of_language hlanguage
  rw [show (found.runOptions schema o).schema = schema from rfl] at hrun
  simp only [StateT.run, perform]
  cases hread : s.tree.readText schema with
  | ok text =>
    simp only [hread] at hshown hrun
    have hother := failure_ne_unusableSchema (o := o) hsettings hlanguage hread
    rw [hshown]
    refine ⟨iff_of_false (fun hfails => hfails rfl) fun hnone => hnone text hread,
      iff_of_true rfl hother, fun hnone => absurd hread (hnone text),
      fun hnone => absurd hread (hnone text), fun hnone => absurd hread (hnone text),
      fun text' hread' => ?_⟩
    obtain rfl := Except.ok.inj (hread.symm.trans hread')
    exact ⟨rfl, hrun⟩
  | error fault =>
    have hunread : ∀ text, s.tree.readText schema ≠ .ok text := by simp [hread]
    simp only [hread] at hshown hrun
    rw [hshown, generate_of_stop hsettings hrun]
    by_cases hfile : s.tree.entry? schema = some .file
    · obtain rfl := Run.notText_of_readText hfile hread
      simp only [if_pos hfile]
      exact ⟨iff_of_true nofun hunread, iff_of_false nofun fun hother => hother _ rfl,
        fun _ => ⟨_, rfl, rfl⟩, fun _ => iff_of_false nofun fun hnot => hnot hfile,
        fun _ _ => ⟨rfl, rfl⟩, fun text hsome => absurd hsome (hunread text)⟩
    · simp only [if_neg hfile]
      exact ⟨iff_of_true nofun hunread, iff_of_false nofun fun hother => hother _ rfl,
        fun _ => ⟨_, rfl, rfl⟩, fun _ => iff_of_true rfl hfile, fun _ hthere => absurd hthere hfile,
        fun text hsome => absurd hsome (hunread text)⟩

/-- A sandbox with a file that is no text, and with a folder. -/
def textless : Sandbox :=
  ⟨⟨[(["bytes.sql"], .file ⟨#[0xff]⟩), (["folder.sql"], .folder)], []⟩, false⟩

/-- A command line without options. -/
def bareOverrides : Overrides := ⟨none, none, none, false, false⟩

/-- Of a folder both commands say the same. -/
theorem schema_read_alike_unless_no_text_folder :
    textless.tree.settings ⟨"folder.sql"⟩ none = .ok .empty ∧
      Language.ofName? (Settings.empty.runOptions ⟨"folder.sql"⟩ bareOverrides).language =
        some .rust ∧
      textless.tree.entry? ⟨"folder.sql"⟩ = some .folder ∧
      (perform host (.inspect ⟨"folder.sql"⟩ .yaml)).run textless =
        (perform host (.generate ⟨"folder.sql"⟩ none bareOverrides)).run textless ∧
      ∃ cause, (perform host (.generate ⟨"folder.sql"⟩ none bareOverrides)).run textless =
        (.failed (.run (.unusableSchema ⟨"folder.sql"⟩ cause)), textless) := by
  have hsettings : textless.tree.settings ⟨"folder.sql"⟩ none = .ok .empty := by decide +kernel
  have hlanguage : Language.ofName?
      (Settings.empty.runOptions ⟨"folder.sql"⟩ bareOverrides).language = some .rust := by decide
  have hfolder : textless.tree.entry? ⟨"folder.sql"⟩ = some .folder := by decide +kernel
  have hunread (text : String) : textless.tree.readText ⟨"folder.sql"⟩ ≠ .ok text := by
    intro hread
    rw [Run.isFile_of_readText hread] at hfolder
    cases hfolder
  have halike := schema_read_alike_unless_no_text textless ⟨"folder.sql"⟩ none bareOverrides .yaml
    hsettings hlanguage
  obtain ⟨cause, hgenerated, -⟩ := halike.generated_unread hunread
  exact ⟨hsettings, hlanguage, hfolder, (halike.alike_iff hunread).mpr (by simp [hfolder]), cause,
    hgenerated⟩

/-- Of a file that is no text only one of the commands says that the schema cannot be used, and so
    their exit codes differ. -/
theorem bytes_shown_and_generated_fail_apart :
    ((perform host (.inspect ⟨"bytes.sql"⟩ .text)).run textless).1 =
        .failed (.unreadableSchema ⟨"bytes.sql"⟩ .notText) ∧
      ((perform host (.generate ⟨"bytes.sql"⟩ none bareOverrides)).run textless).1 =
        .failed (.run (.unusableSchema ⟨"bytes.sql"⟩ (some .notText))) ∧
      ((perform host (.inspect ⟨"bytes.sql"⟩ .text)).run textless).1.exitCode = 1 ∧
      ((perform host (.generate ⟨"bytes.sql"⟩ none bareOverrides)).run textless).1.exitCode = 2 := by
  decide +kernel

end CommandLine

end AccessLayer
