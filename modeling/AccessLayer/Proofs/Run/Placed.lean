import AccessLayer.Proofs.Artifact.Emission
import AccessLayer.Proofs.Run.Course
import AccessLayer.Proofs.Run.Writes

namespace AccessLayer

/-- The third list is the first two merged: each keeps its order, nothing is lost or repeated. -/
inductive IsMerge {α : Type} : List α → List α → List α → Prop where
  | nil : IsMerge [] [] []
  | left {x : α} {xs ys zs : List α} (h : IsMerge xs ys zs) : IsMerge (x :: xs) ys (x :: zs)
  | right {y : α} {xs ys zs : List α} (h : IsMerge xs ys zs) : IsMerge xs (y :: ys) (y :: zs)

/-- The report after more tables, paths and failures. -/
def Report.extend (r : Report) (tables : Nat) (planned written : List Path)
    (failures : List WriteFailure) : Report :=
  { r with
    tables := r.tables + tables
    planned := r.planned ++ planned
    written := r.written ++ written
    failures := r.failures ++ failures }

private theorem Report.extend_nothing (r : Report) : r.extend 0 [] [] [] = r := by
  simp [extend]

private theorem Report.extend_extend (r : Report) (n n' : Nat)
    (planned planned' written written' : List Path) (failures failures' : List WriteFailure) :
    (r.extend n planned written failures).extend n' planned' written' failures' =
      r.extend (n + n') (planned ++ planned') (written ++ written') (failures ++ failures') := by
  simp [extend, Nat.add_assoc]

namespace Run

open AccessLayer.Tree Sandbox

variable {o : Options}

/-- Each artifact is written or noted, once and in its order. -/
theorem Writes.isMerge {s s' : Sandbox} {artifacts : List Artifact} {written : List Path}
    {failed : List WriteFailure} (h : Writes o s artifacts written failed s') :
    IsMerge written (failed.map (·.path)) (artifacts.map fun a => o.output.join a.path) := by
  induction h with
  | nil => exact .nil
  | wrote _ _ ih => exact .left ih
  | failed _ _ ih => exact .right ih

/-- The artifacts are dealt with, in a dry run by planning them: some paths are planned or written,
    some failures are noted. -/
inductive Placed (o : Options) (t : Tree) (artifacts : List Artifact) :
    List Path → List Path → List WriteFailure → Tree → Prop where
  | planned (hdry : o.dryRun = true) :
      Placed o t artifacts (artifacts.map fun a => o.output.join a.path) [] [] t
  | written {written : List Path} {failed : List WriteFailure} {t' : Tree}
      (hdry : o.dryRun = false)
      (hwrites : ∀ flag, Writes o ⟨t, flag⟩ artifacts written failed ⟨t', flag⟩) :
      Placed o t artifacts [] written failed t'

/-- Where there are no artifacts nothing is done. -/
theorem Placed.nil (o : Options) (t : Tree) : Placed o t [] [] [] [] t := by
  cases hdry : o.dryRun with
  | true => exact .planned hdry
  | false => exact .written hdry fun flag => .nil ⟨t, flag⟩

/-- Artifacts are placed one after the other, and what is told of them adds up. -/
theorem Placed.append {t t' t'' : Tree} {artifacts more : List Artifact}
    {planned planned' written written' : List Path} {failed failed' : List WriteFailure}
    (h : Placed o t artifacts planned written failed t')
    (h' : Placed o t' more planned' written' failed' t'') :
    Placed o t (artifacts ++ more) (planned ++ planned') (written ++ written')
      (failed ++ failed') t'' := by
  cases h with
  | planned hdry =>
    cases h' with
    | planned =>
      rw [← List.map_append]
      exact .planned hdry
    | written hreal =>
      rw [hdry] at hreal
      cases hreal
  | written hreal hwrites =>
    cases h' with
    | planned hdry =>
      rw [hdry] at hreal
      cases hreal
    | written _ hwrites' => exact .written hreal fun flag => (hwrites flag).append (hwrites' flag)

/-- Where nothing is dry, placing artifacts is writing them, whether or not the flag is raised. -/
theorem Placed.writes {t t' : Tree} {artifacts : List Artifact} {planned written : List Path}
    {failed : List WriteFailure} (h : Placed o t artifacts planned written failed t')
    (hdry : o.dryRun = false) (flag : Bool) :
    Writes o ⟨t, flag⟩ artifacts written failed ⟨t', flag⟩ := by
  cases h with
  | planned hdry' =>
    rw [hdry'] at hdry
    cases hdry
  | written _ hwrites => exact hwrites flag

/-- What fails is settled by the artifacts and the tree. -/
theorem Placed.failed_unique {t t' t'' : Tree} {artifacts : List Artifact}
    {planned planned' written written' : List Path} {failed failed' : List WriteFailure}
    (h : Placed o t artifacts planned written failed t')
    (h' : Placed o t artifacts planned' written' failed' t'') : failed = failed' := by
  cases h with
  | planned hdry =>
    cases h' with
    | planned => rfl
    | written hreal => exact absurd hdry (by simp [hreal])
  | written hreal hwrites =>
    cases h' with
    | planned hdry => exact absurd hdry (by simp [hreal])
    | written _ hwrites' => exact ((hwrites false).unique (hwrites' false)).2.1

/-- What is planned, or else what is written and what is noted, are the paths of the artifacts. -/
theorem Placed.paths {t t' : Tree} {artifacts : List Artifact} {planned written : List Path}
    {failed : List WriteFailure} (h : Placed o t artifacts planned written failed t') :
    if o.dryRun then
      planned = artifacts.map (fun a => o.output.join a.path) ∧ written = [] ∧ failed = [] ∧ t' = t
    else
      planned = [] ∧
        IsMerge written (failed.map (·.path)) (artifacts.map fun a => o.output.join a.path) := by
  cases h with
  | planned hdry =>
    rw [if_pos hdry]
    exact ⟨rfl, rfl, rfl, rfl⟩
  | written hdry hwrites =>
    rw [if_neg (by simp [hdry])]
    exact ⟨rfl, (hwrites false).isMerge⟩

/-- The artifacts before `a` are written, all of them, and `a` cannot be: there the run aborts. -/
structure FailsAt (o : Options) (t : Tree) (before : List Artifact) (a : Artifact)
    (fault : FileFault) (t' : Tree) : Prop where
  dryRun : o.dryRun = false
  policy : o.policy = .abort
  writes : ∃ between, ∀ flag,
    Writes o ⟨t, flag⟩ before (before.map fun b => o.output.join b.path) [] ⟨between, flag⟩ ∧
      host.writeBelow (o.output.join a.path) a.contents ⟨between, flag⟩ =
        (.error fault, ⟨t', flag⟩)

/-- What has been written before goes on being written. -/
theorem Placed.failsAt_append {t t' t'' : Tree} {artifacts before : List Artifact}
    {planned written : List Path} {failed : List WriteFailure} {a : Artifact} {fault : FileFault}
    (h : Placed o t artifacts planned written failed t') (hfailed : failed = [])
    (h' : FailsAt o t' before a fault t'') : FailsAt o t (artifacts ++ before) a fault t'' := by
  cases h with
  | planned hdry => exact absurd h'.dryRun (by simp [hdry])
  | written hdry hwrites =>
    obtain ⟨between, hbetween⟩ := h'.writes
    refine ⟨hdry, h'.policy, between, fun flag => ⟨?_, (hbetween flag).2⟩⟩
    have hall := (hwrites flag).append (hbetween flag).1
    rw [(hwrites flag).written_eq hfailed, ← List.map_append, hfailed] at hall
    exact hall

/-- How placing artifacts comes out: all of them are dealt with, or it aborts at the first that
    cannot be written. -/
inductive Placing (o : Options) (t : Tree) (r : Report) (artifacts : List Artifact) :
    Except RunError Report → Tree → Prop where
  | placed {planned written : List Path} {failed : List WriteFailure} {t' : Tree}
      (hplaced : Placed o t artifacts planned written failed t')
      (hfailed : o.policy = .abort → failed = []) :
      Placing o t r artifacts (.ok (r.extend 0 planned written failed)) t'
  | failed {before after : List Artifact} {a : Artifact} {fault : FileFault} {t' : Tree}
      (hsplit : artifacts = before ++ a :: after) (hfails : FailsAt o t before a fault t') :
      Placing o t r artifacts (.error (.unwritten (o.output.join a.path) fault)) t'

/-- The first of some artifacts is dealt with, and the others follow if the policy lets them. -/
theorem Placing.cons {t t₁ t' : Tree} {r : Report} {a : Artifact} {rest : List Artifact}
    {planned written : List Path} {failed : List WriteFailure} {result : Except RunError Report}
    (hfirst : Placed o t [a] planned written failed t₁) (hfailed : o.policy = .abort → failed = [])
    (hrest : Placing o t₁ (r.extend 0 planned written failed) rest result t') :
    Placing o t r (a :: rest) result t' := by
  cases hrest with
  | placed hplaced hnone =>
    rw [Report.extend_extend]
    refine .placed (hfirst.append hplaced) fun hpolicy => ?_
    rw [hfailed hpolicy, hnone hpolicy, List.append_nil]
  | failed hsplit hfails =>
    subst hsplit
    exact .failed rfl (hfirst.failsAt_append (hfailed hfails.policy) hfails)

variable {σ : Type} {h : Host (StateM σ)} {v : View σ} {e : Emitter}

/-- How the first of some artifacts is placed: it is dealt with and adds to the report with which
    the others are placed, or the run aborts at it. The report that it is given stands in front of
    what is added. -/
theorem place_cons (hs : h.Serves v) {r : Report} {a : Artifact} {rest : List Artifact} {s s' : σ}
    {result : Except RunError Report} (hplace : place h o r (a :: rest) s = (result, s')) :
    (∃ planned written failed s₁, Placed o (v.tree s) [a] planned written failed (v.tree s₁) ∧
        (o.policy = .abort → failed = []) ∧ v.Keeps s s₁ ∧
        place h o (r.extend 0 planned written failed) rest s₁ = (result, s')) ∨
      ∃ fault, result = .error (.unwritten (o.output.join a.path) fault) ∧
        FailsAt o (v.tree s) [] a fault (v.tree s') ∧ v.Keeps s s' := by
  rw [place] at hplace
  cases hdry : o.dryRun with
  | true =>
    rw [if_pos hdry] at hplace
    have hplanned : { r with planned := r.planned ++ [o.output.join a.path] } =
        r.extend 0 [o.output.join a.path] [] [] := by simp [Report.extend]
    rw [hplanned] at hplace
    exact Or.inl ⟨_, _, _, s, .planned hdry, fun _ => rfl, v.refl s, hplace⟩
  | false =>
    rw [if_neg (by simp [hdry])] at hplace
    cases hwrite : h.writeBelow (o.output.join a.path) a.contents s with
    | mk wrote s₁ =>
      rw [bind_apply hwrite] at hplace
      obtain ⟨hmirror, hkeeps⟩ := hs.writeBelow _ _ s s₁ wrote hwrite
      cases wrote with
      | ok done =>
        have hwritten : { r with written := r.written ++ [o.output.join a.path] } =
            r.extend 0 [] [o.output.join a.path] [] := by simp [Report.extend]
        simp only [hwritten] at hplace
        refine Or.inl ⟨_, _, _, s₁, .written hdry fun flag => ?_, fun _ => rfl, hkeeps, hplace⟩
        exact .wrote (hmirror flag) (.nil _)
      | error fault =>
        cases hpolicy : o.policy with
        | abort =>
          simp only [hpolicy] at hplace
          obtain ⟨rfl, rfl⟩ := Prod.mk.inj hplace
          have hfails : FailsAt o (v.tree s) [] a fault (v.tree s₁) :=
            ⟨hdry, hpolicy, v.tree s, fun flag => ⟨.nil _, hmirror flag⟩⟩
          exact Or.inr ⟨fault, rfl, hfails, hkeeps⟩
        | «continue» =>
          have hnoted : { r with failures :=
              r.failures ++ [⟨o.output.join a.path, fault.message⟩] } =
              r.extend 0 [] [] [⟨o.output.join a.path, fault.message⟩] := by simp [Report.extend]
          simp only [hpolicy, hnoted] at hplace
          refine Or.inl ⟨_, _, _, s₁, .written hdry fun flag => ?_, fun habort => ?_, hkeeps, hplace⟩
          · exact .failed (hmirror flag) (.nil _)
          · cases habort

/-- On any host the artifacts are placed as they are in a sandbox. -/
theorem placing_of_place (hs : h.Serves v) {r : Report} {artifacts : List Artifact} {s s' : σ}
    {result : Except RunError Report} (hplace : place h o r artifacts s = (result, s')) :
    Placing o (v.tree s) r artifacts result (v.tree s') ∧ v.Keeps s s' := by
  induction artifacts generalizing r s with
  | nil =>
    obtain ⟨rfl, rfl⟩ := Prod.mk.inj hplace
    have hnothing := Placing.placed (r := r) (.nil o (v.tree s)) fun _ => rfl
    rw [Report.extend_nothing] at hnothing
    exact ⟨hnothing, v.refl s⟩
  | cons a rest ih =>
    obtain ⟨_, _, _, s₁, hfirst, hnone, hkeeps, hrest⟩ | ⟨fault, rfl, hfails, hkeeps⟩ :=
      place_cons hs hplace
    · obtain ⟨hrest, hkeeps'⟩ := ih hrest
      exact ⟨.cons hfirst hnone hrest, v.trans hkeeps hkeeps'⟩
    · exact ⟨.failed rfl hfails, hkeeps⟩

/-- Looking at the flag does nothing to the tree. -/
theorem isStopped_tree (hs : h.Serves v) (s : σ) : v.tree (isStopped h o s).2 = v.tree s := by
  unfold isStopped
  split
  · exact hs.isCancelled s
  · rfl

/-- In a sandbox a run is stopped exactly if it looks at the flag and the flag is raised. -/
theorem isStopped_eq (o : Options) (s : Sandbox) :
    isStopped host o s = (o.watched && s.cancelled, s) := by
  unfold isStopped
  cases o.watched <;> rfl

/-- Looking at the flag and raising it leave the tree alone. -/
theorem Begins.tree_eq (hs : h.Serves v) {t : Table} {s s' : σ} (hbegins : Begins h o e t s s') :
    v.tree s' = v.tree s := by
  obtain ⟨s₁, hlook, rfl⟩ := hbegins
  have hsame := isStopped_tree (o := o) hs s
  rw [hlook] at hsame
  split
  · exact (hs.cancel s₁).trans hsame
  · exact hsame

/-- The tables that a run has passed are rendered, and their artifacts are dealt with in order. -/
theorem Passes.placed (hs : h.Serves v) {s s' : σ} {r r' : Report} {tables : List Table}
    (hpasses : Passes h o e s r tables s' r') :
    ∃ emitted planned written failed, tables.mapM e.emitAll = .ok emitted ∧
      Placed o (v.tree s) emitted.flatten planned written failed (v.tree s') ∧
      r' = r.extend tables.length planned written failed ∧ (o.policy = .abort → failed = []) := by
  induction hpasses with
  | nil s r => exact ⟨[], [], [], [], rfl, .nil o (v.tree s), r.extend_nothing.symm, fun _ => rfl⟩
  | @cons s s₁ s₂ s' r r₁ r' t rest artifacts hbegins hemit hplace _ ih =>
    obtain ⟨emitted, planned, written, failed, hrest, hplaced, hreport, hnone⟩ := ih
    obtain ⟨hplacing, _⟩ := placing_of_place hs hplace
    rw [hbegins.tree_eq hs] at hplacing
    cases hplacing with
    | @placed planned₁ written₁ failed₁ _ hfirst hnone₁ =>
      refine ⟨artifacts :: emitted, _, _, _, ?_, hfirst.append hplaced, ?_, fun hpolicy => ?_⟩
      · rw [List.mapM_cons, hemit, hrest]
        rfl
      · rw [hreport, List.length_cons, Nat.add_comm rest.length 1, ← Report.extend_extend]
        rfl
      · rw [hnone₁ hpolicy, hnone hpolicy, List.append_nil]

/-- The report and the tree are those of a run that has dealt with these tables and with no others:
    it has attempted their artifacts in order, and each of them is written or noted, or in a dry run
    planned. -/
structure Covers (o : Options) (e : Emitter) (t : Tree) (tables : List Table) (r : Report)
    (t' : Tree) : Prop where
  count : r.tables = tables.length
  artifacts : ∃ emitted, tables.mapM e.emitAll = .ok emitted ∧
    Placed o t emitted.flatten r.planned r.written r.failures t' ∧
    if o.dryRun then
      r.planned = emitted.flatten.map (fun a => o.output.join a.path) ∧ r.written = [] ∧
        r.failures = [] ∧ t' = t
    else
      r.planned = [] ∧ IsMerge r.written (r.failures.map (·.path))
        (emitted.flatten.map fun a => o.output.join a.path)

/-- A run covers the tables that it has passed. -/
theorem Passes.covers (hs : h.Serves v) {s s' : σ} {l : Language} {r : Report}
    {tables : List Table} (hpasses : Passes h o e s (.start l o) tables s' r) :
    Covers o e (v.tree s) tables r (v.tree s') := by
  obtain ⟨emitted, planned, written, failed, hemitted, hplaced, rfl, _⟩ := hpasses.placed hs
  exact ⟨Nat.zero_add _, emitted, hemitted, hplaced, hplaced.paths⟩

/-- A run keeps the flag where its emitter does not raise it. -/
theorem Passes.cancelled_eq {s s' : Sandbox} {r r' : Report} {tables : List Table}
    (hquiet : ∀ t, e.cancels t = false) (hpasses : Passes host o e s r tables s' r') :
    s'.cancelled = s.cancelled := by
  induction hpasses with
  | nil => rfl
  | @cons s s₁ s₂ s' r r₁ r' t rest artifacts hbegins _ hplace _ ih =>
    obtain ⟨s₀, hlook, rfl⟩ := hbegins
    rw [isStopped_eq] at hlook
    obtain ⟨_, rfl⟩ := Prod.mk.inj hlook
    rw [hquiet t, if_neg Bool.false_ne_true] at hplace
    exact ih.trans (placing_of_place serves_view hplace).2

/-- A run of the built-in emitters that completes has read its schema and has dealt with the
    artifacts of its tables one after the other, which is all that it reports. -/
theorem placed_of_generate {s s' : Sandbox} {r : Report} (hrun : generate host o s = (.ok r, s')) :
    ∃ l text planned written failed, Language.ofName? o.language = some l ∧
      s.tree.readText o.schema = .ok text ∧
      Placed o s.tree ((readSchema text).flatMap (Artifact.ofTable l o.service)) planned written
        failed s'.tree ∧
      r = (Report.start l o).extend (readSchema text).length planned written failed ∧
      s'.cancelled = s.cancelled := by
  rw [generate, generateWith_apply, Registry.create_builtIn] at hrun
  cases hlanguage : Language.ofName? o.language with
  | none =>
    rw [hlanguage] at hrun
    cases (Prod.mk.inj hrun).1
  | some l =>
    cases hread : s.tree.readText o.schema with
    | error fault =>
      rw [hlanguage, hread] at hrun
      cases (Prod.mk.inj hrun).1
    | ok text =>
      simp only [hlanguage, Option.map_some, hread] at hrun
      obtain ⟨passed, rest, between, r₁, htables, hpasses, hends⟩ := processTables_course hrun
      cases hends
      rw [List.append_nil] at htables
      subst htables
      obtain ⟨emitted, planned, written, failed, hemitted, hplaced, hreport, _⟩ :=
        hpasses.placed serves_view
      obtain rfl := Except.ok.inj
        (hemitted.symm.trans (Emitter.mapM_emitAll_builtIn l o.service (readSchema text)))
      rw [← List.flatMap_def] at hplaced
      exact ⟨l, text, planned, written, failed, rfl, rfl, hplaced, hreport,
        hpasses.cancelled_eq fun _ => rfl⟩

/-- Where nothing is dry, the artifacts are put in place. -/
theorem writes_of_generate {s s' : Sandbox} {r : Report} (hdry : o.dryRun = false)
    (hrun : generate host o s = (.ok r, s')) :
    ∃ l text, Language.ofName? o.language = some l ∧ s.tree.readText o.schema = .ok text ∧
      Writes o s ((readSchema text).flatMap (Artifact.ofTable l o.service)) r.written r.failures
        s' ∧ r.tables = (readSchema text).length := by
  obtain ⟨l, text, planned, written, failed, hlanguage, hread, hplaced, rfl, hflag⟩ :=
    placed_of_generate hrun
  refine ⟨l, text, hlanguage, hread, ?_, Nat.zero_add _⟩
  have hsame : (⟨s'.tree, s.cancelled⟩ : Sandbox) = s' :=
    congrArg (Sandbox.mk s'.tree) hflag.symm
  have hwrites : Writes o ⟨s.tree, s.cancelled⟩ _ written failed ⟨s'.tree, s.cancelled⟩ :=
    hplaced.writes hdry s.cancelled
  rw [hsame] at hwrites
  exact hwrites

end Run

end AccessLayer
