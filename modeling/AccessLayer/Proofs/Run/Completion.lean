import AccessLayer.Proofs.Artifact.Emission
import AccessLayer.Proofs.Run.Policy

namespace AccessLayer

namespace Run

open AccessLayer.Tree Sandbox

variable {o : Options} {e : Emitter}

/-- A run from the tree aborts at none of the artifacts. -/
def Unhindered (o : Options) (t : Tree) (artifacts : List Artifact) : Prop :=
  ∀ before a after fault t', artifacts = before ++ a :: after → ¬ FailsAt o t before a fault t'

/-- Only runs that write abort, and only by their policy. -/
theorem unhindered_of_goesOn (hgoesOn : o.dryRun = true ∨ o.policy = .continue) (t : Tree)
    (artifacts : List Artifact) : Unhindered o t artifacts := by
  intro before a after fault t' _ hfails
  rcases hgoesOn with hdry | hpolicy
  · rw [hfails.dryRun] at hdry
    cases hdry
  · rw [hfails.policy] at hpolicy
    cases hpolicy

/-- Where all artifacts can be put in place, a run aborts at none of them. -/
theorem Placed.unhindered {t t' : Tree} {artifacts : List Artifact} {planned written : List Path}
    (h : Placed o t artifacts planned written [] t') :
    Unhindered o t artifacts := by
  rintro before a after fault t₁ rfl hfails
  obtain ⟨between, hbetween⟩ := hfails.writes
  obtain ⟨_, _, _, hfailed, _⟩ := (hbetween false).1.first_failure rfl (hbetween false).2
    (h.writes hfails.dryRun false)
  cases hfailed

/-- A run that is not cancelled and can render its tables completes, or aborts at an artifact. -/
theorem processTables_cases {l : Language} {s : Sandbox} {tables : List Table}
    {emitted : List (List Artifact)} (hquiet : ∀ t, e.cancels t = false)
    (hemits : ∀ t, ∃ artifacts, e.emitAll t = .ok artifacts)
    (hemitted : tables.mapM e.emitAll = .ok emitted)
    (hcalm : o.watched = false ∨ s.cancelled = false) :
    (∃ r s', processTables host o e (.start l o) tables s = (.ok r, s') ∧
        Passes host o e s (.start l o) tables s' r) ∨
      ∃ before a after fault s', emitted.flatten = before ++ a :: after ∧
        processTables host o e (.start l o) tables s =
          (.error (.unwritten (o.output.join a.path) fault), s') ∧
        FailsAt o s.tree before a fault s'.tree := by
  cases hrun : processTables host o e (.start l o) tables s with
  | mk result s' =>
    obtain ⟨passed, rest, between, r₁, rfl, hpasses, hends⟩ := processTables_course hrun
    cases hends with
    | done =>
      rw [List.append_nil]
      exact Or.inl ⟨r₁, s', rfl, hpasses⟩
    | stopped hstop =>
      rw [isStopped_eq, hpasses.cancelled_eq hquiet] at hstop
      obtain ⟨hraised, _⟩ := Prod.mk.inj hstop
      rcases hcalm with hdown | hdown <;> simp [hdown] at hraised
    | @unrendered _ t _ _ _ _ hemit =>
      obtain ⟨artifacts, hemits⟩ := hemits t
      rw [hemit] at hemits
      cases hemits
    | unplaced _ _ hplace =>
      obtain ⟨path, fault, rfl⟩ := unwritten_of_place hplace
      obtain ⟨before, a, after, hsplit, rfl, hfails⟩ :=
        failsAt_of_processTables serves_view hemitted hrun
      exact Or.inr ⟨before, a, after, fault, s', hsplit, rfl, hfails⟩

/-- With a known language and a schema that can be read, a run of the built-in emitters that nobody
    cancels deals with all artifacts of its tables, or aborts at one that cannot be written. -/
theorem generate_places_or_aborts {l : Language} {text : String} {s : Sandbox}
    (hlanguage : Language.ofName? o.language = some l) (hread : s.tree.readText o.schema = .ok text)
    (hcalm : o.watched = false ∨ s.cancelled = false) :
    (∃ r s', generate host o s = (.ok r, s') ∧ s'.cancelled = s.cancelled ∧ r.language = l ∧
        r.tables = (readSchema text).length ∧
        Placed o s.tree ((readSchema text).flatMap (Artifact.ofTable l o.service)) r.planned
          r.written r.failures s'.tree) ∨
      ∃ before a after fault s',
        (readSchema text).flatMap (Artifact.ofTable l o.service) = before ++ a :: after ∧
        generate host o s = (.error (.unwritten (o.output.join a.path) fault), s') ∧
        FailsAt o s.tree before a fault s'.tree := by
  have hgenerate : generate host o s =
      processTables host o (.builtIn l o.service) (.start l o) (readSchema text) s := by
    rw [generate, generateWith_apply, Registry.create_builtIn, hlanguage, hread]
    rfl
  have hemitted := Emitter.mapM_emitAll_builtIn l o.service (readSchema text)
  rcases processTables_cases (l := l) (fun _ => rfl)
      (fun t => ⟨_, Emitter.emitAll_builtIn l o.service t⟩) hemitted hcalm with
    ⟨r, s', hdone, _⟩ | ⟨before, a, after, fault, s', hsplit, hstop, hfails⟩
  · have hreport := hgenerate.trans hdone
    obtain ⟨l', text', _, _, _, hlanguage', hread', hplaced, rfl, hflag⟩ :=
      placed_of_generate hreport
    obtain rfl := Option.some.inj (hlanguage.symm.trans hlanguage')
    obtain rfl := Except.ok.inj (hread.symm.trans hread')
    exact Or.inl ⟨_, s', hreport, hflag, rfl, Nat.zero_add _, hplaced⟩
  · rw [← List.flatMap_def] at hsplit
    exact Or.inr ⟨before, a, after, fault, s', hsplit, hgenerate.trans hstop, hfails⟩

/-- Nothing but a cancellation, or an artifact that cannot be written, keeps a run with a known
    language and a readable schema from its end. The policy makes no difference here. -/
theorem generate_completes_of_unhindered {l : Language} {text : String} {s : Sandbox}
    (hlanguage : Language.ofName? o.language = some l) (hread : s.tree.readText o.schema = .ok text)
    (hcalm : o.watched = false ∨ s.cancelled = false)
    (hfree : Unhindered o s.tree ((readSchema text).flatMap (Artifact.ofTable l o.service))) :
    ∃ r s', generate host o s = (.ok r, s') ∧ s'.cancelled = s.cancelled ∧ r.language = l ∧
      r.tables = (readSchema text).length ∧
      Placed o s.tree ((readSchema text).flatMap (Artifact.ofTable l o.service)) r.planned r.written
        r.failures s'.tree := by
  rcases generate_places_or_aborts hlanguage hread hcalm with
    hdone | ⟨before, a, after, fault, s', hsplit, _, hfails⟩
  · exact hdone
  · exact absurd hfails (hfree before a after fault s'.tree hsplit)

/-- Where no failure ends a run, it completes whatever can be written, so that no assumption is made
    on the files but that the schema can be read. -/
theorem generate_completes {l : Language} {text : String} {s : Sandbox}
    (hlanguage : Language.ofName? o.language = some l) (hread : s.tree.readText o.schema = .ok text)
    (hcalm : o.watched = false ∨ s.cancelled = false)
    (hgoesOn : o.dryRun = true ∨ o.policy = .continue) :
    ∃ r s', generate host o s = (.ok r, s') ∧ s'.cancelled = s.cancelled ∧ r.language = l ∧
      r.tables = (readSchema text).length ∧
      Placed o s.tree ((readSchema text).flatMap (Artifact.ofTable l o.service)) r.planned r.written
        r.failures s'.tree :=
  generate_completes_of_unhindered hlanguage hread hcalm (unhindered_of_goesOn hgoesOn _ _)

/-- A run of the built-in emitters that nobody cancels is refused, or has no schema, or deals with
    all artifacts of its tables, or aborts at one that cannot be written. -/
theorem generate_cases {s : Sandbox} (hcalm : o.watched = false ∨ s.cancelled = false) :
    (Language.ofName? o.language = none ∧
        generate host o s = (.error (.unsupported o.language Registry.builtIn.names), s)) ∨
      (∃ l cause, Language.ofName? o.language = some l ∧
        (∀ text, s.tree.readText o.schema ≠ .ok text) ∧
        generate host o s = (.error (.unusableSchema o.schema cause), s)) ∨
      ∃ l text, Language.ofName? o.language = some l ∧ s.tree.readText o.schema = .ok text ∧
        ((∃ r s', generate host o s = (.ok r, s') ∧
            Placed o s.tree ((readSchema text).flatMap (Artifact.ofTable l o.service)) r.planned
              r.written r.failures s'.tree) ∨
          ∃ before a after fault s',
            (readSchema text).flatMap (Artifact.ofTable l o.service) = before ++ a :: after ∧
            generate host o s = (.error (.unwritten (o.output.join a.path) fault), s') ∧
            FailsAt o s.tree before a fault s'.tree) := by
  have happly := generateWith_apply .builtIn o s
  rw [← generate, Registry.create_builtIn] at happly
  cases hlanguage : Language.ofName? o.language with
  | none =>
    rw [hlanguage] at happly
    exact Or.inl ⟨rfl, happly⟩
  | some l =>
    cases hread : s.tree.readText o.schema with
    | error fault =>
      rw [hlanguage, hread] at happly
      exact Or.inr (Or.inl ⟨l, _, rfl, by simp, happly⟩)
    | ok text =>
      have hends := generate_places_or_aborts hlanguage hread hcalm
      refine Or.inr (Or.inr ⟨l, text, rfl, rfl, hends.imp_left ?_⟩)
      rintro ⟨r, s', hrun, _, _, _, hplaced⟩
      exact ⟨r, s', hrun, hplaced⟩

end Run

end AccessLayer
