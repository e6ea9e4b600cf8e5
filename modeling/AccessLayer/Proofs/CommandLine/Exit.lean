import AccessLayer.Proofs.CommandLine.Sandboxed
import AccessLayer.Proofs.Run.Completion
import AccessLayer.Proofs.Run.Frame

namespace AccessLayer

namespace CommandLine

open Sandbox (host)

/-- The files that a dry run would write, one on a line. -/
def planText (r : Report) : String :=
  if r.dryRun then String.join (r.planned.map fun p => p.text ++ "\n") else ""

/-- The artifacts that could not be written, one on a line. -/
def failureText (r : Report) : String :=
  String.join
    (r.failures.map fun f => "failed to write " ++ f.path.text ++ ": " ++ f.message ++ "\n")

/-- A command with a report fails exactly if an artifact could not be written. -/
theorem failure_reported (r : Report) :
    (reported r).failure =
      if r.failures = [] then none else some (.unwritten r.failures.length) := by
  unfold reported Report.isSuccess
  cases r.failures <;> rfl

/-- A report comes with one of two codes. -/
theorem exitCode_reported (r : Report) :
    (reported r).exitCode = if r.failures = [] then 0 else 1 := by
  rw [Outcome.exitCode, failure_reported]
  split <;> rfl

/-- The plan of a dry run comes first, then the summary, in success and in failure. -/
theorem output_reported (r : Report) :
    (reported r).output = planText r ++ r.summary ++ "\n" := rfl

/-- Each failure is named before the command says how many there are. -/
theorem errorText_reported (r : Report) :
    (reported r).errorText =
      failureText r ++
        if r.failures = [] then ""
        else "error: " ++ (Failure.unwritten r.failures.length).message ++ "\n" := by
  have hcomplaints : (reported r).complaints = failureText r := rfl
  rw [Outcome.errorText, hcomplaints, failure_reported]
  by_cases hnone : r.failures = []
  · rw [if_pos hnone, if_pos hnone]
  · rw [if_neg hnone, if_neg hnone]

/-- A language that nobody serves is misuse. -/
theorem exitCode_unsupported (asked : String) (supported : List String) :
    (RunError.unsupported asked supported).exitCode = 2 := rfl

/-- A schema that cannot be read is misuse, for whatever reason. -/
theorem exitCode_unusableSchema (schema : Path) (cause : Option FileFault) :
    (RunError.unusableSchema schema cause).exitCode = 2 := rfl

/-- A command for a schema in a tree has its settings, a language that is served and the text of the
    schema. -/
structure Ready (t : Tree) (schema : Path) (named : Option Path) (o : Overrides)
    (found : Settings) (l : Language) (text : String) : Prop where
  settings : t.settings schema named = .ok found
  language : Language.ofName? (found.runOptions schema o).language = some l
  schema : t.readText schema = .ok text

/-- The artifacts of all tables of a schema text, as the options ask for them. -/
def artifactsOf (o : Options) (l : Language) (text : String) : List Artifact :=
  (readSchema text).flatMap (Artifact.ofTable l o.service)

/-- What a command has come to, and the tree that it leaves, tell how its run has gone. -/
structure TellsTruth (t : Tree) (schema : Path) (named : Option Path) (o : Overrides)
    (out : Outcome) (t' : Tree) : Prop where
  /-- Code 0 is for runs in which every artifact is written, or planned in a dry run. -/
  success : out.exitCode = 0 ↔ ∃ found l text planned written, Ready t schema named o found l text ∧
    Run.Placed (found.runOptions schema o) t (artifactsOf (found.runOptions schema o) l text)
      planned written [] t'
  /-- After code 0 each artifact's path holds the contents that belong there last, but for a dry
      run, which leaves the files alone. -/
  filled : out.exitCode = 0 → ∀ found l text, Ready t schema named o found l text →
    if (found.runOptions schema o).dryRun then t' = t
    else Run.Filled (found.runOptions schema o) (artifactsOf (found.runOptions schema o) l text)
      ((artifactsOf (found.runOptions schema o) l text).map fun a =>
        (found.runOptions schema o).output.join a.path) t'
  misuse : out.exitCode = 2 ↔ ∃ found, t.settings schema named = .ok found ∧
    (Language.ofName? (found.runOptions schema o).language = none ∨
      ∀ text, t.readText schema ≠ .ok text)
  otherwise : out.exitCode ≠ 0 → out.exitCode ≠ 2 → out.exitCode = 1
  /-- Only a run that ends in a report prints anything but an error. -/
  output_iff : out.output ≠ "" ↔ ∃ found r s', t.settings schema named = .ok found ∧
    Run.generate host (found.runOptions schema o) ⟨t, false⟩ = (.ok r, s')
  /-- The report is summed up, each artifact that could not be written is named in order, and the
      files that are reported as written hold the contents that belong there last. -/
  reported : ∀ found r s', t.settings schema named = .ok found →
    Run.generate host (found.runOptions schema o) ⟨t, false⟩ = (.ok r, s') →
      out.output = planText r ++ r.summary ++ "\n" ∧
      out.errorText = (failureText r ++
        if r.failures = [] then ""
        else "error: " ++ (Failure.unwritten r.failures.length).message ++ "\n") ∧
      ∃ l text, Ready t schema named o found l text ∧
        Run.Placed (found.runOptions schema o) t (artifactsOf (found.runOptions schema o) l text)
          r.planned r.written r.failures t' ∧
        Run.Filled (found.runOptions schema o) (artifactsOf (found.runOptions schema o) l text)
          r.written t'
  unsettled : ∀ e, t.settings schema named = .error e → t' = t ∧ out.output = ""

variable {t : Tree} {schema : Path} {named : Option Path} {o : Overrides} {found : Settings}

/-- What a command has when it is ready is determined by the tree and what it is given. -/
theorem Ready.unique {l l' : Language} {text text' : String} {found' : Settings}
    (h : Ready t schema named o found l text) (h' : Ready t schema named o found' l' text') :
    found = found' ∧ l = l' ∧ text = text' := by
  obtain rfl := Except.ok.inj (h.settings.symm.trans h'.settings)
  exact ⟨rfl, Option.some.inj (h.language.symm.trans h'.language),
    Except.ok.inj (h.schema.symm.trans h'.schema)⟩

private theorem Ready.not_misused {l : Language} {text : String}
    (h : Ready t schema named o found l text) :
    ¬ ∃ found, t.settings schema named = .ok found ∧
      (Language.ofName? (found.runOptions schema o).language = none ∨
        ∀ text, t.readText schema ≠ .ok text) := by
  rintro ⟨found', hfound, hwhy⟩
  obtain rfl := Except.ok.inj (h.settings.symm.trans hfound)
  rcases hwhy with hnone | hunread
  · cases hnone.symm.trans h.language
  · exact hunread text h.schema

private theorem result_unique {found' : Settings} {result result' : Except RunError Report}
    {s s' : Sandbox} (hsettings : t.settings schema named = .ok found)
    (hrun : Run.generate host (found.runOptions schema o) ⟨t, false⟩ = (result, s))
    (hsettings' : t.settings schema named = .ok found')
    (hrun' : Run.generate host (found'.runOptions schema o) ⟨t, false⟩ = (result', s')) :
    found = found' ∧ result = result' ∧ s = s' := by
  obtain rfl := Except.ok.inj (hsettings.symm.trans hsettings')
  exact ⟨rfl, Prod.mk.inj (hrun.symm.trans hrun')⟩

private theorem tellsTruth_of_no_settings {e : SettingsError}
    (h : t.settings schema named = .error e) :
    TellsTruth t schema named o (.failed (.settings e)) t where
  success := iff_of_false nofun fun ⟨_, _, _, _, _, hready, _⟩ => by cases h.symm.trans hready.settings
  filled := nofun
  misuse := iff_of_false nofun fun ⟨_, hfound, _⟩ => by cases h.symm.trans hfound
  otherwise _ _ := rfl
  output_iff := iff_of_false (fun hne => hne rfl) fun ⟨_, _, _, hfound, _⟩ => by
    cases h.symm.trans hfound
  reported _ _ _ hfound _ := by cases h.symm.trans hfound
  unsettled _ _ := ⟨rfl, rfl⟩

private theorem tellsTruth_of_refused {stop : RunError}
    (hsettings : t.settings schema named = .ok found)
    (hrun : Run.generate host (found.runOptions schema o) ⟨t, false⟩ = (.error stop, ⟨t, false⟩))
    (hwhy : Language.ofName? (found.runOptions schema o).language = none ∨
      ∀ text, t.readText schema ≠ .ok text)
    (hcode : stop.exitCode = 2) : TellsTruth t schema named o (.failed (.run stop)) t where
  success := by
    refine iff_of_false (by simp [Outcome.exitCode, Outcome.failed, Failure.exitCode, hcode]) ?_
    rintro ⟨_, _, _, _, _, hready, _⟩
    exact hready.not_misused ⟨found, hsettings, hwhy⟩
  filled hzero := by cases hcode.symm.trans hzero
  misuse := iff_of_true hcode ⟨found, hsettings, hwhy⟩
  otherwise _ hother := absurd hcode hother
  output_iff := iff_of_false (fun hne => hne rfl) fun ⟨_, _, _, hfound, hok⟩ => by
    cases (result_unique hsettings hrun hfound hok).2.1
  reported _ _ _ hfound hok := by cases (result_unique hsettings hrun hfound hok).2.1
  unsettled _ hnone := by cases hsettings.symm.trans hnone

private theorem tellsTruth_of_aborted {l : Language} {text : String} {path : Path}
    {fault : FileFault} {s' : Sandbox} (hready : Ready t schema named o found l text)
    (hrun : Run.generate host (found.runOptions schema o) ⟨t, false⟩ =
      (.error (.unwritten path fault), s'))
    (hhindered : ¬ Run.Unhindered (found.runOptions schema o) t
      (artifactsOf (found.runOptions schema o) l text)) :
    TellsTruth t schema named o (.failed (.run (.unwritten path fault))) s'.tree where
  success := by
    refine iff_of_false nofun ?_
    rintro ⟨_, _, _, _, _, hready', hplaced⟩
    obtain ⟨rfl, rfl, rfl⟩ := hready.unique hready'
    exact hhindered hplaced.unhindered
  filled := nofun
  misuse := iff_of_false nofun hready.not_misused
  otherwise _ _ := rfl
  output_iff := iff_of_false (fun hne => hne rfl) fun ⟨_, _, _, hfound, hok⟩ => by
    cases (result_unique hready.settings hrun hfound hok).2.1
  reported _ _ _ hfound hok := by cases (result_unique hready.settings hrun hfound hok).2.1
  unsettled _ hnone := by cases hready.settings.symm.trans hnone

private theorem failures_eq_nil_of_exitCode {r : Report} (h : (reported r).exitCode = 0) :
    r.failures = [] := by
  rw [exitCode_reported] at h
  by_contra hsome
  simp [hsome] at h

private theorem tellsTruth_of_report {l : Language} {text : String} {r : Report} {s' : Sandbox}
    (hready : Ready t schema named o found l text)
    (hrun : Run.generate host (found.runOptions schema o) ⟨t, false⟩ = (.ok r, s'))
    (hplaced : Run.Placed (found.runOptions schema o) t
      (artifactsOf (found.runOptions schema o) l text) r.planned r.written r.failures s'.tree) :
    TellsTruth t schema named o (reported r) s'.tree where
  success := by
    constructor
    · intro hcode
      rw [failures_eq_nil_of_exitCode hcode] at hplaced
      exact ⟨found, l, text, _, _, hready, hplaced⟩
    · rintro ⟨_, _, _, _, _, hready', hplaced'⟩
      obtain ⟨rfl, rfl, rfl⟩ := hready.unique hready'
      rw [exitCode_reported, if_pos (hplaced.failed_unique hplaced')]
  filled hcode _ _ _ hready' := by
    obtain ⟨rfl, rfl, rfl⟩ := hready.unique hready'
    split
    · rename_i hdry
      have hpaths := hplaced.paths
      rw [if_pos hdry] at hpaths
      exact hpaths.2.2.2
    · rename_i hdry
      have hwrites := hplaced.writes (by simpa using hdry) false
      rw [← hwrites.written_eq (failures_eq_nil_of_exitCode hcode)]
      exact hwrites.filled fun a ha => Artifact.isPlain_path ha
  misuse := iff_of_false (by rw [exitCode_reported]; split <;> decide) hready.not_misused
  otherwise hsome _ := by
    rw [exitCode_reported] at hsome ⊢
    split at hsome
    · exact absurd rfl hsome
    · rename_i hfailures
      rw [if_neg hfailures]
  output_iff := iff_of_true (by simp [output_reported]) ⟨found, r, s', hready.settings, hrun⟩
  reported _ _ _ hfound hok := by
    obtain ⟨rfl, hsame, -⟩ := result_unique hready.settings hrun hfound hok
    obtain rfl := Except.ok.inj hsame
    exact ⟨output_reported r, errorText_reported r, l, text, hready, hplaced,
      hplaced.filled fun a ha => Artifact.isPlain_path ha⟩
  unsettled _ hnone := by cases hready.settings.symm.trans hnone

/-- Where nobody cancels it, what a command that generates tells is true of its run, in every tree:
    the exit code says whether every artifact is in its place, and what is printed says which ones
    are not. -/
theorem generate_tells_truth (t : Tree) (schema : Path) (named : Option Path) (o : Overrides) :
    ∃ out s', (perform host (.generate schema named o)).run ⟨t, false⟩ = (out, s') ∧
      TellsTruth t schema named o out s'.tree := by
  simp only [StateT.run, perform]
  cases hsettings : t.settings schema named with
  | error e => exact ⟨_, _, generate_of_no_settings hsettings, tellsTruth_of_no_settings hsettings⟩
  | ok found =>
    rcases Run.generate_cases (o := found.runOptions schema o) (s := ⟨t, false⟩) (Or.inr rfl) with
      ⟨hnone, hrun⟩ | ⟨_, cause, _, hunread, hrun⟩ | ⟨l, text, hlanguage, hread, hends⟩
    · have hends := generate_of_stop (s := ⟨t, false⟩) hsettings hrun
      refine ⟨_, _, hends, ?_⟩
      exact tellsTruth_of_refused hsettings hrun (Or.inl hnone) (exitCode_unsupported _ _)
    · have hends := generate_of_stop (s := ⟨t, false⟩) hsettings hrun
      refine ⟨_, _, hends, ?_⟩
      exact tellsTruth_of_refused hsettings hrun (Or.inr hunread) (exitCode_unusableSchema _ _)
    · have hready : Ready t schema named o found l text := ⟨hsettings, hlanguage, hread⟩
      rcases hends with ⟨r, s', hrun, hplaced⟩ | ⟨before, a, after, fault, s', hsplit, hrun, hfails⟩
      · have hends := generate_of_report (s := ⟨t, false⟩) hsettings hrun
        exact ⟨_, _, hends, tellsTruth_of_report hready hrun hplaced⟩
      · have hends := generate_of_stop (s := ⟨t, false⟩) hsettings hrun
        refine ⟨_, _, hends, tellsTruth_of_aborted hready hrun ?_⟩
        exact fun hfree => hfree before a after fault s'.tree hsplit hfails

end CommandLine

end AccessLayer
