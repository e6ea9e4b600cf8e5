import AccessLayer.Proofs.Artifact.Layout
import AccessLayer.Proofs.Run.Placed

namespace AccessLayer

namespace Run

open AccessLayer.Tree Sandbox

/-- Each of the paths leads to a file that holds the contents of the last artifact on that path. -/
def Filled (o : Options) (artifacts : List Artifact) (paths : List Path) (t : Tree) : Prop :=
  ∀ p ∈ paths, ∃ a, artifacts.findRev? (fun a => o.output.join a.path = p) = some a ∧
    t.readBytes p = .ok a.contents.toUTF8

/-- The reported files hold the contents of the last artifact that belongs on their path. Files
    elsewhere are what they were and none of them is new; folders are new only above artifacts. -/
structure OnlyReported (o : Options) (artifacts : List Artifact) (r : Report) (s s' : Sandbox) :
    Prop where
  contents : Filled o artifacts r.written s'.tree
  files : ∀ place bytes, (∀ p ∈ r.written, s'.tree.placeOf? p ≠ some place) →
    (s'.tree.get? place = some (.file bytes) ↔ s.tree.get? place = some (.file bytes))
  newFolders : ∀ place, s'.tree.get? place = some .folder → s.tree.get? place ≠ some .folder →
    ∃ a ∈ artifacts, ∃ p ∈ (o.output.join a.path).above, s'.tree.placeOf? p = some place
  oldFolders : ∀ place, s.tree.get? place = some .folder → s'.tree.get? place = some .folder
  workingFolder : s'.tree.workingFolder = s.tree.workingFolder
  cancelled : s'.cancelled = s.cancelled

/-- Writing artifacts fills the paths that are written, whatever is written later and whatever fails
    in between. -/
theorem Writes.filled {o : Options} {s s' : Sandbox} {artifacts : List Artifact}
    {written : List Path} {failed : List WriteFailure}
    (h : Writes o s artifacts written failed s') (hplain : ∀ a ∈ artifacts, IsPlain a.path) :
    Filled o artifacts written s'.tree := by
  intro p hp
  obtain ⟨a, place, hlast, hholds⟩ := h.holds_last hplain hp
  exact ⟨a, hlast, hholds.readBytes⟩

/-- Where artifacts are placed, the files that are written hold what belongs there in the end. -/
theorem Placed.filled {o : Options} {t t' : Tree} {artifacts : List Artifact}
    {planned written : List Path} {failed : List WriteFailure}
    (h : Placed o t artifacts planned written failed t')
    (hplain : ∀ a ∈ artifacts, IsPlain a.path) : Filled o artifacts written t' := by
  cases h with
  | planned => exact fun p hp => absurd hp List.not_mem_nil
  | written _ hwrites => exact (hwrites false).filled hplain

/-- A run that is not dry and completes has written what it reports, whatever stood in its way, and
    nothing else. -/
theorem generate_writes_only_reported (o : Options) (s s' : Sandbox) (r : Report)
    (hdry : o.dryRun = false) (hrun : (generate host o).run s = (.ok r, s')) :
    ∃ l text emitted, Language.ofName? o.language = some l ∧
      s.tree.readText o.schema = .ok text ∧
      (readSchema text).mapM (Emitter.builtIn l o.service).emitAll = .ok emitted ∧
      OnlyReported o emitted.flatten r s s' := by
  rw [StateT.run] at hrun
  obtain ⟨l, text, hlanguage, hread, hwrites, _⟩ := writes_of_generate hdry hrun
  refine ⟨l, text, _, hlanguage, hread, Emitter.mapM_emitAll_builtIn l o.service (readSchema text),
    ?_⟩
  rw [← List.flatMap_def]
  have halters := hwrites.alters
  refine ⟨hwrites.filled fun a ha => Artifact.isPlain_path ha, halters.file, ?_,
    halters.grows.folder, halters.grows.workingFolder, halters.cancelled⟩
  · intro place hfolder hnew
    rcases halters.folder place hfolder with hold | ⟨p, hp, hplace⟩
    · exact absurd hold hnew
    · obtain ⟨a, ha, habove⟩ := List.mem_flatMap.mp hp
      exact ⟨a, ha, p, habove, hplace⟩

/-- A sandbox in which one artifact of a table is already there, the place of another is taken by a
    folder, and the folder of a third is missing. -/
def crowded : Sandbox :=
  ⟨⟨[(["users.sql"], .file "CREATE TABLE users (id UUID);".toUTF8), (["out"], .folder),
    (["out", "dao"], .folder), (["out", "dao", "users_dao.hpp"], .file "old".toUTF8),
    (["out", "dao", "pg_users_dao.hpp"], .folder)], []⟩, false⟩

/-- A run for the crowded sandbox that notes failures and goes on. -/
def crowdedOptions : Options :=
  { Options.ofSchema ⟨"users.sql"⟩ "C++" with
    output := ⟨"out"⟩
    policy := .continue }

/-- A folder stands where one artifact belongs, so that three of four are written. -/
theorem generate_writes_only_reported_crowded :
    crowdedOptions.dryRun = false ∧
      ∃ r s', (generate host crowdedOptions).run crowded = (.ok r, s') ∧
        r.written = [⟨"out/models/users.hpp"⟩, ⟨"out/dao/users_dao.hpp"⟩,
          ⟨"out/dao/mock_users_dao.hpp"⟩] ∧
        r.failures.map (·.path) = [⟨"out/dao/pg_users_dao.hpp"⟩] ∧
        ∃ emitted : List (List Artifact),
          OnlyReported crowdedOptions emitted.flatten r crowded s' := by
  have hreport : ((generate host crowdedOptions).run crowded).1 = .ok
      { Report.start .cpp crowdedOptions with
        tables := 1
        written := [⟨"out/models/users.hpp"⟩, ⟨"out/dao/users_dao.hpp"⟩,
          ⟨"out/dao/mock_users_dao.hpp"⟩]
        failures := [⟨⟨"out/dao/pg_users_dao.hpp"⟩, FileFault.isFolder.message⟩] } := by
    decide +kernel
  cases hrun : (generate host crowdedOptions).run crowded with
  | mk result s' =>
    rw [hrun] at hreport
    simp only at hreport
    subst hreport
    obtain ⟨_, _, emitted, _, _, _, honly⟩ :=
      generate_writes_only_reported crowdedOptions crowded s' _ rfl hrun
    exact ⟨rfl, _, s', rfl, rfl, rfl, emitted, honly⟩

end Run

end AccessLayer
