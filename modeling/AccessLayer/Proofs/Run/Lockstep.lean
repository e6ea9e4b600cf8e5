import AccessLayer.Proofs.Artifact.Emission
import AccessLayer.Proofs.Files.Lockstep
import AccessLayer.Proofs.Run.Placed

namespace AccessLayer

namespace Run

open AccessLayer.Tree Sandbox

variable {o : Options} {paths : List Path}

private theorem inStep_isStopped (R : Tree → Tree → Prop) (o : Options) :
    InStep R (isStopped host o) :=
  fun _ _ flag halike => ⟨o.watched && flag, [], isStopped_eq o _, isStopped_eq o _, halike⟩

/-- Artifacts are put in their places in step; a dry run looks at no place. -/
theorem inStep_place {artifacts : List Artifact}
    (hpaths : o.dryRun = false → ∀ a ∈ artifacts, o.output.join a.path ∈ paths) (r : Report) :
    InStep (AlikeFor paths) (place host o r artifacts) := by
  induction artifacts generalizing r with
  | nil => exact InStep.pure _ _
  | cons a rest ih =>
    have hrest := ih fun hdry b hb => hpaths hdry b (List.mem_cons_of_mem a hb)
    rw [place]
    by_cases hdry : o.dryRun = true
    · rw [if_pos hdry]
      exact hrest _
    · rw [if_neg hdry]
      have hfirst := hpaths (by simpa using hdry) a (List.mem_cons_self ..)
      refine (inStep_writeBelow hfirst a.contents).bind fun wrote => ?_
      split
      · exact hrest _
      · split
        · exact InStep.pure _ _
        · exact hrest _

/-- An emitter that cancels nothing deals with tables in step. -/
theorem inStep_processTables {e : Emitter} (hquiet : ∀ t, e.cancels t = false) {tables : List Table}
    (hpaths : o.dryRun = false → ∀ t ∈ tables, ∀ artifacts, e.emitAll t = .ok artifacts →
      ∀ a ∈ artifacts, o.output.join a.path ∈ paths) (r : Report) :
    InStep (AlikeFor paths) (processTables host o e r tables) := by
  induction tables generalizing r with
  | nil => exact InStep.pure _ _
  | cons t rest ih =>
    have hrest := ih fun hdry t' ht' => hpaths hdry t' (List.mem_cons_of_mem t ht')
    rw [processTables]
    refine (inStep_isStopped _ o).bind fun stopped => ?_
    split
    · exact InStep.pure _ _
    · rw [hquiet t, if_neg Bool.false_ne_true]
      cases hemit : e.emitAll t with
      | error failed => exact InStep.pure _ _
      | ok artifacts =>
        have hhere : InStep (AlikeFor paths) (place host o r artifacts) :=
          inStep_place (fun hdry => hpaths hdry t (List.mem_cons_self ..) artifacts hemit) r
        refine hhere.bind fun placed => ?_
        split
        · exact InStep.pure _ _
        · exact hrest _

/-- For a run the trees are alike: they hold the same text as its schema, if any, and on the way to
    each artifact that it is to write the same kinds of entries. -/
structure SeenAlike (o : Options) (t t' : Tree) : Prop where
  schema : ∀ text, t'.readText o.schema = .ok text ↔ t.readText o.schema = .ok text
  artifacts : o.dryRun = false → ∀ l text, Language.ofName? o.language = some l →
    t.readText o.schema = .ok text →
      ∀ a ∈ (readSchema text).flatMap (Artifact.ofTable l o.service),
        ApproachedAlike t t' (o.output.join a.path)

/-- The paths of the artifacts that are to be written, for which the trees are alike. -/
theorem SeenAlike.exists_paths {t t' : Tree} {l : Language} {text : String}
    (h : SeenAlike o t t') (hlanguage : Language.ofName? o.language = some l)
    (hread : t.readText o.schema = .ok text) :
    ∃ paths, AlikeFor paths t t' ∧ (o.dryRun = false →
      ∀ a ∈ (readSchema text).flatMap (Artifact.ofTable l o.service),
        o.output.join a.path ∈ paths) := by
  cases hdry : o.dryRun with
  | true => exact ⟨[], fun p hp => absurd hp List.not_mem_nil, fun hreal => by cases hreal⟩
  | false =>
    have hall := h.artifacts hdry l text hlanguage hread
    generalize (readSchema text).flatMap (Artifact.ofTable l o.service) = artifacts at hall
    refine ⟨artifacts.map fun a => o.output.join a.path, fun p hp => ?_, fun _ a ha => ?_⟩
    · obtain ⟨a, ha, rfl⟩ := List.mem_map.mp hp
      exact hall a ha
    · exact List.mem_map.mpr ⟨a, ha, rfl⟩

/-- Runs end alike. Of a schema that cannot be read they may tell different causes. -/
inductive EndAlike (schema : Path) : Except RunError Report → Except RunError Report → Prop where
  | same (result : Except RunError Report) : EndAlike schema result result
  | unread (cause cause' : Option FileFault) :
      EndAlike schema (.error (.unusableSchema schema cause))
        (.error (.unusableSchema schema cause'))

/-- Where two trees hold the same schema and nothing but contents tells them apart on the way to the
    artifacts, a run ends alike in both and makes the same changes. -/
theorem generate_in_step {t t' : Tree} (halike : SeenAlike o t t') (flag : Bool) :
    ∃ result result' changes, EndAlike o.schema result result' ∧
      generate host o ⟨t, flag⟩ = (result, ⟨t.changed changes, flag⟩) ∧
      generate host o ⟨t', flag⟩ = (result', ⟨t'.changed changes, flag⟩) := by
  simp only [generate, generateWith_apply, Registry.create_builtIn]
  cases hlanguage : Language.ofName? o.language with
  | none => exact ⟨_, _, [], .same _, rfl, rfl⟩
  | some l =>
    simp only [Option.map_some]
    cases hread : t.readText o.schema with
    | error fault =>
      cases hread' : t'.readText o.schema with
      | error fault' => exact ⟨_, _, [], .unread _ _, rfl, rfl⟩
      | ok text => cases hread.symm.trans ((halike.schema text).mp hread')
    | ok text =>
      simp only [(halike.schema text).mpr hread]
      obtain ⟨paths, hall, hpaths⟩ := halike.exists_paths hlanguage hread
      have hquiet (table : Table) : (Emitter.builtIn l o.service).cancels table = false := rfl
      have hemitted : o.dryRun = false → ∀ table ∈ readSchema text, ∀ artifacts,
          (Emitter.builtIn l o.service).emitAll table = .ok artifacts →
            ∀ a ∈ artifacts, o.output.join a.path ∈ paths := by
        intro hdry table htable artifacts hemit a ha
        rw [Emitter.emitAll_builtIn, Except.ok.injEq] at hemit
        subst hemit
        exact hpaths hdry a (List.mem_flatMap.mpr ⟨table, htable, ha⟩)
      have hstep := inStep_processTables hquiet hemitted (.start l o)
      obtain ⟨result, changes, hrun, hrun', _⟩ := hstep t t' flag hall
      exact ⟨result, result, changes, .same result, hrun, hrun'⟩

end Run

end AccessLayer
