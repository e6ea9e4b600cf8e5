import AccessLayer.Proofs.Run.Completion

namespace AccessLayer

namespace Run

open AccessLayer.Tree Sandbox

variable {o : Options} {e : Emitter}

/-- Of two reports on the same tables, the first is that of a dry run, and the second that of a run
    which has attempted what the first has planned, and has left the second tree of the first. -/
structure Predicts (o : Options) (l : Language) (tables : List Table) (d r : Report)
    (t t' : Tree) : Prop where
  language : d.language = l ∧ r.language = l
  count : d.tables = tables.length ∧ r.tables = tables.length
  nothingDone : d.written = [] ∧ d.failures = []
  nothingPlanned : r.planned = []
  planned : d.planned =
    (tables.flatMap (Artifact.ofTable l o.service)).map fun a => o.output.join a.path
  attempted : ∀ flag,
    Writes o ⟨t, flag⟩ (tables.flatMap (Artifact.ofTable l o.service)) r.written r.failures
      ⟨t', flag⟩
  /-- What the second run reports as written holds the contents that belong there last. -/
  filled : Filled o (tables.flatMap (Artifact.ofTable l o.service)) r.written t'
  merged : IsMerge r.written (r.failures.map (·.path)) d.planned

/-- A dry run leaves everything as it is. It fails as the run would, or else it has planned what the
    run that goes on after failures attempts: the same files in the same order. -/
theorem dryRun_predicts_run (o : Options) (s : Sandbox)
    (hcalm : o.watched = false ∨ s.cancelled = false) :
    (Language.ofName? o.language = none → ∀ dryRun policy,
        (generate host { o with dryRun, policy }).run s =
          (.error (.unsupported o.language Registry.builtIn.names), s)) ∧
      (∀ l, Language.ofName? o.language = some l → (∀ text, s.tree.readText o.schema ≠ .ok text) →
        ∃ cause, ∀ dryRun policy, (generate host { o with dryRun, policy }).run s =
          (.error (.unusableSchema o.schema cause), s)) ∧
      ∀ l text, Language.ofName? o.language = some l → s.tree.readText o.schema = .ok text →
        ∃ d r s', (generate host { o with dryRun := true }).run s = (.ok d, s) ∧
          (generate host { o with dryRun := false, policy := .continue }).run s = (.ok r, s') ∧
          Predicts o l (readSchema text) d r s.tree s'.tree := by
  refine ⟨fun hlanguage dryRun policy => ?_, fun l hlanguage hunread => ?_,
    fun l text hlanguage hread => ?_⟩
  · rw [StateT.run, generate, generateWith_apply, Registry.create_builtIn, hlanguage]
    rfl
  · cases hread : s.tree.readText o.schema with
    | ok text => exact absurd hread (hunread text)
    | error fault =>
      refine ⟨if s.tree.entry? o.schema = some .file then some fault else none,
        fun dryRun policy => ?_⟩
      rw [StateT.run, generate, generateWith_apply, Registry.create_builtIn, hlanguage, hread]
      rfl
  · simp only [StateT.run]
    obtain ⟨d, s₁, hdry, hflag, hlanguage₁, hcount₁, hplaced₁⟩ :=
      generate_completes (o := { o with dryRun := true }) hlanguage hread hcalm (Or.inl rfl)
    obtain ⟨r, s', hreal, _, hlanguage₂, hcount₂, hplaced₂⟩ :=
      generate_completes (o := { o with dryRun := false, policy := .continue }) hlanguage hread
        hcalm (Or.inr rfl)
    obtain ⟨hplanned, hwritten, hfailures, htree⟩ := hplaced₁.paths
    obtain ⟨hnone, hmerged⟩ := hplaced₂.paths
    have hsame : s₁ = s := by
      cases s
      cases s₁
      exact congrArg₂ Sandbox.mk htree hflag
    subst hsame
    refine ⟨d, r, s', hdry, hreal, ⟨hlanguage₁, hlanguage₂⟩, ⟨hcount₁, hcount₂⟩,
      ⟨hwritten, hfailures⟩, hnone, hplanned, fun flag => ?_, ?_, ?_⟩
    · exact (hplaced₂.writes rfl flag).congr_options rfl
    · exact hplaced₂.filled fun a ha => Artifact.isPlain_path ha
    · rw [hplanned]
      exact hmerged

/-- In the crowded sandbox a dry run also plans the store, which cannot be written. -/
theorem dryRun_predicts_run_crowded :
    (crowdedOptions.watched = false ∨ crowded.cancelled = false) ∧
      ∃ text d r s', crowded.tree.readText crowdedOptions.schema = .ok text ∧
        (generate host { crowdedOptions with dryRun := true }).run crowded = (.ok d, crowded) ∧
        (generate host { crowdedOptions with dryRun := false, policy := .continue }).run crowded =
          (.ok r, s') ∧
        Predicts crowdedOptions .cpp (readSchema text) d r crowded.tree s'.tree := by
  have hlanguage : Language.ofName? crowdedOptions.language = some .cpp := by decide
  have hread : crowded.tree.readText crowdedOptions.schema =
      .ok "CREATE TABLE users (id UUID);" := by
    decide +kernel
  have hcalm : crowdedOptions.watched = false ∨ crowded.cancelled = false := Or.inl rfl
  obtain ⟨d, r, s', hdry, hreal, hpredicts⟩ :=
    (dryRun_predicts_run crowdedOptions crowded hcalm).2.2 .cpp _ hlanguage hread
  exact ⟨hcalm, _, d, r, s', hread, hdry, hreal, hpredicts⟩

end Run

end AccessLayer
