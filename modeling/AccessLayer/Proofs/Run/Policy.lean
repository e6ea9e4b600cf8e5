import AccessLayer.Proofs.Run.Frame
import AccessLayer.Proofs.Run.Placed

namespace AccessLayer

namespace Run

open AccessLayer.Tree Sandbox

variable {o : Options}

/-- Of the options, only the output folder matters to writes. -/
theorem Writes.congr_options {o' : Options} {s s' : Sandbox} {artifacts : List Artifact}
    {written : List Path} {failed : List WriteFailure} (h : Writes o' s artifacts written failed s')
    (houtput : o'.output = o.output) : Writes o s artifacts written failed s' := by
  induction h with
  | nil s => exact .nil s
  | wrote hwrite _ ih =>
    rw [houtput] at hwrite ⊢
    exact .wrote hwrite ih
  | failed hwrite _ ih =>
    rw [houtput] at hwrite ⊢
    exact .failed hwrite ih

/-- Writes that go on after a first failure have done before it what they would have done if they
    had ended there. -/
theorem Writes.first_failure {s between s₁ s' : Sandbox} {before after : List Artifact}
    {a : Artifact} {early written : List Path} {none failed : List WriteFailure} {fault : FileFault}
    (hbefore : Writes o s before early none between) (hnone : none = [])
    (hfault : host.writeBelow (o.output.join a.path) a.contents between = (.error fault, s₁))
    (hall : Writes o s (before ++ a :: after) written failed s') :
    ∃ later more, written = early ++ later ∧
      failed = ⟨o.output.join a.path, fault.message⟩ :: more ∧ Writes o s₁ after later more s' := by
  induction hbefore generalizing written with
  | nil s =>
    cases hall with
    | wrote hwrite =>
      rw [hfault] at hwrite
      cases (Prod.mk.inj hwrite).1
    | failed hwrite hrest =>
      obtain ⟨hsame, rfl⟩ := Prod.mk.inj (hfault.symm.trans hwrite)
      obtain rfl := Except.error.inj hsame
      exact ⟨_, _, rfl, rfl, hrest⟩
  | wrote hwrite _ ih =>
    cases hall with
    | wrote hwrite' hrest =>
      obtain ⟨_, rfl⟩ := Prod.mk.inj (hwrite.symm.trans hwrite')
      obtain ⟨later, more, rfl, hfailed, hlater⟩ := ih hnone hfault hrest
      exact ⟨later, more, rfl, hfailed, hlater⟩
    | failed hwrite' =>
      rw [hwrite] at hwrite'
      cases (Prod.mk.inj hwrite').1
  | failed => cases hnone

variable {σ : Type} {h : Host (StateM σ)} {v : View σ} {e : Emitter}

/-- A run that aborts, next to one that goes on to a report and a state from where some failures are
    noted: it does the same if no other failure is noted, and stops at the first that is. -/
inductive AbortsBeside (noted : List WriteFailure) (r : Report) (s : σ) :
    Except RunError Report × σ → Prop where
  | same (hnone : r.failures = noted) : AbortsBeside noted r s (.ok r, s)
  | stops {path : Path} {fault : FileFault} {more : List WriteFailure} {s₁ : σ}
      (hfirst : r.failures = noted ++ ⟨path, fault.message⟩ :: more) :
      AbortsBeside noted r s (.error (.unwritten path fault), s₁)

/-- Beside artifacts that are placed by a run that goes on, one that aborts does the same or ends at
    the first failure. -/
theorem place_abortsBeside (hs : h.Serves v) {r r' : Report} {artifacts : List Artifact} {s s' : σ}
    (hplace : place h { o with policy := .continue } r artifacts s = (.ok r', s')) :
    AbortsBeside r.failures r' s' (place h { o with policy := .abort } r artifacts s) := by
  induction artifacts generalizing r s with
  | nil =>
    obtain ⟨hreport, rfl⟩ := Prod.mk.inj hplace
    obtain rfl := Except.ok.inj hreport
    exact .same rfl
  | cons a rest ih =>
    rw [place] at hplace ⊢
    by_cases hdry : o.dryRun = true
    · rw [if_pos hdry] at hplace ⊢
      exact ih hplace
    · rw [if_neg hdry] at hplace ⊢
      cases hwrite : h.writeBelow (o.output.join a.path) a.contents s with
      | mk wrote s₁ =>
        rw [bind_apply hwrite] at hplace ⊢
        cases wrote with
        | ok done => exact ih hplace
        | error fault =>
          obtain ⟨hrest, _⟩ := placing_of_place hs hplace
          cases hrest with
          | @placed _ _ failed _ _ _ =>
            have hfirst : r.failures ++ [⟨o.output.join a.path, fault.message⟩] ++ failed =
                r.failures ++ ⟨o.output.join a.path, fault.message⟩ :: failed := by simp
            exact .stops hfirst

/-- Tables that a run has passed are passed beside it, or the first failure ends that. After each
    table the run beside it is at the same state, or has ended at a failure in it. -/
theorem Passes.abortsBeside (hs : h.Serves v) {s s' : σ} {r r' : Report} {tables : List Table}
    (hpasses : Passes h { o with policy := .continue } e s r tables s' r') :
    AbortsBeside r.failures r' s' (processTables h { o with policy := .abort } e r tables s) := by
  induction hpasses with
  | nil s r => exact .same rfl
  | @cons s s₁ s₂ s' r r₁ r' t rest artifacts hbegins hemit hplace hrest ih =>
    have hbegins' : Begins h { o with policy := .abort } e t s s₁ := hbegins
    have hbeside := place_abortsBeside hs hplace
    rw [processTables_begun hbegins', hemit]
    cases hplaced : place h { o with policy := .abort } r artifacts s₁ with
    | mk placed s₃ =>
      rw [hplaced] at hbeside
      simp only [hplaced]
      cases hbeside with
      | same hnone =>
        rw [← hnone]
        exact ih
      | @stops path fault more _ hfirst =>
        obtain ⟨_, _, _, failed, _, _, hreport, _⟩ := hrest.placed hs
        have hstill : r'.failures = r.failures ++ ⟨path, fault.message⟩ :: (more ++ failed) := by
          simp [hreport, Report.extend, hfirst]
        exact .stops hstill

/-- Tables are rendered one after the other. -/
theorem emitted_append {passed rest : List Table} {t : Table} {emitted early : List (List Artifact)}
    {artifacts : List Artifact} (hearly : passed.mapM e.emitAll = .ok early)
    (hemit : e.emitAll t = .ok artifacts)
    (hemitted : (passed ++ t :: rest).mapM e.emitAll = .ok emitted) :
    ∃ late, emitted = early ++ artifacts :: late := by
  rw [List.mapM_append, List.mapM_cons, hearly, hemit] at hemitted
  cases hrest : rest.mapM e.emitAll with
  | error failed =>
    rw [hrest] at hemitted
    cases hemitted
  | ok late =>
    rw [hrest] at hemitted
    exact ⟨late, (Except.ok.inj hemitted).symm⟩

/-- A run that ends at an artifact has written all the artifacts before it, over all tables. -/
theorem failsAt_of_processTables (hs : h.Serves v) {l : Language} {s s' : σ} {tables : List Table}
    {emitted : List (List Artifact)} {path : Path} {fault : FileFault}
    (hemitted : tables.mapM e.emitAll = .ok emitted)
    (hrun : processTables h o e (.start l o) tables s = (.error (.unwritten path fault), s')) :
    ∃ before a after, emitted.flatten = before ++ a :: after ∧ path = o.output.join a.path ∧
      FailsAt o (v.tree s) before a fault (v.tree s') := by
  obtain ⟨passed, rest, between, r, rfl, hpasses, hends⟩ := processTables_course hrun
  obtain ⟨early, planned, written, failed, hearly, hplaced, _, hnone⟩ := hpasses.placed hs
  cases hends with
  | unplaced hbegins hemit hplace =>
    obtain ⟨late, rfl⟩ := emitted_append hearly hemit hemitted
    obtain ⟨hplacing, _⟩ := placing_of_place hs hplace
    rw [hbegins.tree_eq hs] at hplacing
    cases hplacing with
    | @failed before after a _ _ hsplit hfails =>
      refine ⟨early.flatten ++ before, a, after ++ late.flatten, ?_, rfl,
        hplaced.failsAt_append (hnone hfails.policy) hfails⟩
      simp [hsplit]

/-- Of two runs from one tree, the first ended at the artifact that could not be written. The other
    reports the artifacts before it as written, has noted the same failure first, and has gone on
    with the later artifacts from the very files at which the first ended. -/
structure EndsAtFirstFailure (o : Options) (r : Report) (before : List Artifact) (a : Artifact)
    (after : List Artifact) (fault : FileFault) (t t₁ t' : Tree) : Prop where
  fails : FailsAt { o with policy := .abort } t before a fault t₁
  /-- Files differ only where the artifacts before are, folders are new only above them and `a`. -/
  untouched : ∀ flag, Alters ⟨t, flag⟩ ⟨t₁, flag⟩ (before.map fun b => o.output.join b.path)
    ((before ++ [a]).flatMap fun b => (o.output.join b.path).above)
  goesOn : ∃ later more, r.written = (before.map fun b => o.output.join b.path) ++ later ∧
    r.failures = ⟨o.output.join a.path, fault.message⟩ :: more ∧
    ∀ flag, Writes o ⟨t₁, flag⟩ after later more ⟨t', flag⟩ ∧
      Alters ⟨t₁, flag⟩ ⟨t', flag⟩ later (after.flatMap fun b => (o.output.join b.path).above)

/-- A run that goes on, next to one that fails. -/
theorem FailsAt.endsAtFirstFailure {r : Report} {before after : List Artifact} {a : Artifact}
    {fault : FileFault} {t t₁ t' : Tree}
    (hfails : FailsAt { o with policy := .abort } t before a fault t₁)
    (hall : ∀ flag, Writes o ⟨t, flag⟩ (before ++ a :: after) r.written r.failures ⟨t', flag⟩) :
    EndsAtFirstFailure o r before a after fault t t₁ t' := by
  obtain ⟨between, hbetween⟩ := hfails.writes
  have hbefore (flag : Bool) : Writes o ⟨t, flag⟩ before
      (before.map fun b => o.output.join b.path) [] ⟨between, flag⟩ :=
    (hbetween flag).1.congr_options rfl
  refine ⟨hfails, fun flag => ?_, ?_⟩
  · have halters := (hbefore flag).alters.trans (writeBelow_eq_error (hbetween flag).2)
    rw [List.append_nil] at halters
    rw [List.flatMap_append, List.flatMap_singleton]
    exact halters
  · obtain ⟨later, more, hwritten, hfailures, _⟩ :=
      (hbefore false).first_failure rfl (hbetween false).2 (hall false)
    refine ⟨later, more, hwritten, hfailures, fun flag => ?_⟩
    obtain ⟨later', more', hwritten', hfailures', hlater⟩ :=
      (hbefore flag).first_failure rfl (hbetween flag).2 (hall flag)
    rw [hwritten] at hwritten'
    rw [hfailures] at hfailures'
    obtain rfl := List.append_cancel_left hwritten'
    obtain rfl := (List.cons.inj hfailures').2
    exact ⟨hlater, hlater.alters⟩

private theorem abort_of_processTables (hs : h.Serves v) {l : Language} {s s' : σ} {r : Report}
    {tables : List Table}
    (hrun : processTables h { o with policy := .continue } e (.start l o) tables s = (.ok r, s')) :
    (r.failures = [] →
        processTables h { o with policy := .abort } e (.start l o) tables s = (.ok r, s')) ∧
      (r.failures ≠ [] → ∃ emitted before a after fault s₁,
        tables.mapM e.emitAll = .ok emitted ∧ emitted.flatten = before ++ a :: after ∧
        processTables h { o with policy := .abort } e (.start l o) tables s =
          (.error (.unwritten (o.output.join a.path) fault), s₁) ∧
        EndsAtFirstFailure o r before a after fault (v.tree s) (v.tree s₁) (v.tree s')) := by
  obtain ⟨passed, rest, between, r₁, rfl, hpasses, hends⟩ := processTables_course hrun
  cases hends
  rw [List.append_nil]
  have hbeside := hpasses.abortsBeside hs
  cases habort : processTables h { o with policy := .abort } e (.start l o) passed s with
  | mk result s₁ =>
    rw [habort] at hbeside
    cases hbeside with
    | same hnone =>
      exact ⟨fun _ => rfl, fun hsome => absurd hnone hsome⟩
    | @stops path fault more _ hfirst =>
      refine ⟨fun hnone => ?_, fun _ => ?_⟩
      · rw [hnone] at hfirst
        cases hfirst
      · obtain ⟨_, emitted, hemitted, hplaced, _⟩ := hpasses.covers hs
        obtain ⟨before, a, after, hsplit, rfl, hfails⟩ :=
          failsAt_of_processTables hs hemitted habort
        have hall (flag : Bool) : Writes o ⟨v.tree s, flag⟩ (before ++ a :: after) r.written
            r.failures ⟨v.tree s', flag⟩ := by
          rw [← hsplit]
          exact (hplaced.writes hfails.dryRun flag).congr_options rfl
        exact ⟨emitted, before, a, after, fault, s₁, hemitted, hsplit, rfl,
          hfails.endsAtFirstFailure hall⟩

/-- A run that aborts does exactly what the run that goes on does before its first failure. -/
theorem abort_is_prefix_of_continue (registry : Registry) (o : Options) (s s' : Sandbox)
    (r : Report)
    (hrun : (generateWith host registry { o with policy := .continue }).run s = (.ok r, s')) :
    (r.failures = [] →
        (generateWith host registry { o with policy := .abort }).run s = (.ok r, s')) ∧
      (r.failures ≠ [] → ∃ e text emitted before a after fault s₁,
        registry.create? o.language o.service = some e ∧ s.tree.readText o.schema = .ok text ∧
        (readSchema text).mapM e.emitAll = .ok emitted ∧ emitted.flatten = before ++ a :: after ∧
        (generateWith host registry { o with policy := .abort }).run s =
          (.error (.unwritten (o.output.join a.path) fault), s₁) ∧
        EndsAtFirstFailure o r before a after fault s.tree s₁.tree s'.tree) := by
  simp only [StateT.run, generateWith_apply] at hrun ⊢
  cases hcreate : registry.create? o.language o.service with
  | none =>
    simp only [hcreate] at hrun
    cases (Prod.mk.inj hrun).1
  | some e =>
    cases hread : s.tree.readText o.schema with
    | error fault =>
      simp only [hcreate, hread] at hrun
      cases (Prod.mk.inj hrun).1
    | ok text =>
      simp only [hcreate, hread] at hrun ⊢
      obtain ⟨hsame, hstops⟩ := abort_of_processTables serves_view hrun
      refine ⟨hsame, fun hfailures => ?_⟩
      obtain ⟨emitted, before, a, after, fault, s₁, hends⟩ := hstops hfailures
      exact ⟨e, text, emitted, before, a, after, fault, s₁, rfl, rfl, hends⟩

/-- In the crowded sandbox the store is where a run that aborts ends. -/
theorem abort_is_prefix_of_continue_crowded :
    ∃ r s' s₁ before a after fault,
      (generateWith host .builtIn { crowdedOptions with policy := .continue }).run crowded =
        (.ok r, s') ∧
      (generateWith host .builtIn { crowdedOptions with policy := .abort }).run crowded =
        (.error (.unwritten (crowdedOptions.output.join a.path) fault), s₁) ∧
      crowdedOptions.output.join a.path = ⟨"out/dao/pg_users_dao.hpp"⟩ ∧
      fault.message = FileFault.isFolder.message ∧
      EndsAtFirstFailure crowdedOptions r before a after fault crowded.tree s₁.tree s'.tree := by
  have hreport : ((generateWith host .builtIn { crowdedOptions with policy := .continue }).run
      crowded).1 = .ok
      { Report.start .cpp crowdedOptions with
        tables := 1
        written := [⟨"out/models/users.hpp"⟩, ⟨"out/dao/users_dao.hpp"⟩,
          ⟨"out/dao/mock_users_dao.hpp"⟩]
        failures := [⟨⟨"out/dao/pg_users_dao.hpp"⟩, FileFault.isFolder.message⟩] } := by
    decide +kernel
  cases hrun : (generateWith host .builtIn { crowdedOptions with policy := .continue }).run
      crowded with
  | mk result s' =>
    rw [hrun] at hreport
    simp only at hreport
    subst hreport
    obtain ⟨_, hstops⟩ := abort_is_prefix_of_continue .builtIn crowdedOptions crowded s' _ hrun
    obtain ⟨_, _, _, before, a, after, fault, s₁, _, _, _, _, habort, hends⟩ := hstops (by simp)
    obtain ⟨_, _, _, hfirst, _⟩ := hends.goesOn
    obtain ⟨hpath, hmessage⟩ := WriteFailure.mk.inj (List.cons.inj hfirst).1
    exact ⟨_, s', s₁, before, a, after, fault, rfl, habort, hpath.symm, hmessage.symm, hends⟩

end Run

end AccessLayer
