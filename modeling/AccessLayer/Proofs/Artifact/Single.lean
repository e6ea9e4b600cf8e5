import AccessLayer.Proofs.Artifact.Emission

namespace AccessLayer

namespace Emitter

variable {e : Emitter} {t : Table}

/-- Paths and texts tell alike which kinds are made, and no text fails. -/
def Consistent (e : Emitter) (t : Table) : Prop :=
  ∀ kind, (∃ path contents, e.path? t kind = some path ∧
      e.render (e.blueprint t) kind = .ok (some contents)) ∨
    e.path? t kind = none ∧ e.render (e.blueprint t) kind = .ok none

/-- An artifact is what its kind is when it is asked for alone, at its own path. -/
structure IsSingle (e : Emitter) (t : Table) (a : Artifact) : Prop where
  table : a.table = t.name
  path : e.path? t a.kind = some a.path
  alone : e.emitOne t a.kind = .ok (some a.contents)
  whole : e.renderOne t a.kind = .ok a.contents

private theorem renderOne_eq {kind : Kind} {contents : Option String}
    (h : e.render (e.blueprint t) kind = .ok contents) :
    e.renderOne t kind = .ok (contents.getD "") := by
  rw [renderOne, h]
  rfl

/-- The operations for single kinds differ from each other in the kind alone. -/
theorem emitOne_of_rendered {kind : Kind} {contents : String}
    (h : e.render (e.blueprint t) kind = .ok (some contents)) :
    e.emitOne t kind = .ok (some contents) := by
  have hwhole : e.renderOne t kind = .ok contents := renderOne_eq h
  cases kind with
  | model => rw [emitOne, emitModel, hwhole]; rfl
  | contract => rw [emitOne, emitContract, hwhole]; rfl
  | store => rw [emitOne, emitStore, hwhole]; rfl
  | mock => rw [emitOne, emitMock, hwhole]; rfl
  | wiring => exact h

/-- An artifact with a path and a text is what the operation for its kind makes, letter for
    letter. -/
theorem isSingle_of_rendered {kind : Kind} {path : Path} {contents : String}
    (hpath : e.path? t kind = some path)
    (h : e.render (e.blueprint t) kind = .ok (some contents)) :
    e.IsSingle t ⟨t.name, kind, path, contents⟩ :=
  ⟨rfl, hpath, emitOne_of_rendered h, renderOne_eq h⟩

/-- Of some kinds, those with a path are emitted, each once and in their order. -/
theorem emitKinds_of_consistent (h : e.Consistent t) (kinds : List Kind) :
    ∃ artifacts, e.emitKinds t kinds = .ok artifacts ∧
      artifacts.map (·.kind) = kinds.filter (fun kind => (e.path? t kind).isSome) ∧
      ∀ a ∈ artifacts, e.IsSingle t a := by
  induction kinds with
  | nil => exact ⟨[], rfl, rfl, by simp⟩
  | cons kind kinds ih =>
    obtain ⟨artifacts, hemitted, hkinds, hsingle⟩ := ih
    rcases h kind with ⟨path, contents, hpath, hrender⟩ | ⟨hpath, hrender⟩
    · refine ⟨⟨t.name, kind, path, contents⟩ :: artifacts, ?_, ?_, ?_⟩
      · simp only [emitKinds, hpath, hrender, hemitted, Except.map]
      · rw [List.map_cons, List.filter_cons, if_pos (by rw [hpath]; rfl), hkinds]
      · exact List.forall_mem_cons.mpr ⟨isSingle_of_rendered hpath hrender, hsingle⟩
    · refine ⟨artifacts, ?_, ?_, hsingle⟩
      · rw [emitKinds, hpath, hemitted]
      · rw [List.filter_cons, if_neg (by rw [hpath]; exact Bool.false_ne_true), hkinds]

/-- The languages decide by path and by text alike which kinds they make. -/
theorem consistent_builtIn (l : Language) (service : String) (t : Table) :
    (builtIn l service).Consistent t := by
  intro kind
  cases l <;> cases kind <;>
    first
    | exact Or.inl ⟨_, _, rfl, rfl⟩
    | exact Or.inr ⟨rfl, rfl⟩

/-- For every table, the artifacts that are emitted together are those that the language makes, in
    the order of the kinds and each once; their texts are those that are made one by one. What has
    no path is the wiring, and it has no text either. -/
theorem together_agrees_with_single (l : Language) (service : String) (t : Table) :
    (∀ kind, ((builtIn l service).path? t kind).isSome ↔ ∃ contents,
        (builtIn l service).render ((builtIn l service).blueprint t) kind = .ok (some contents)) ∧
      (∃ artifacts, (builtIn l service).emitAll t = .ok artifacts ∧
        artifacts.map (·.kind) =
          Kind.all.filter (fun kind => ((builtIn l service).path? t kind).isSome) ∧
        (artifacts.map (·.kind)).Nodup ∧
        ∀ a ∈ artifacts, (builtIn l service).IsSingle t a) ∧
      ∀ kind, (builtIn l service).path? t kind = none → kind = .wiring ∧
        (builtIn l service).emitWiring t = .ok none ∧
        (builtIn l service).renderOne t kind = .ok "" := by
  have hconsistent := consistent_builtIn l service t
  refine ⟨fun kind => ?_, ?_, fun kind hnone => ?_⟩
  · rcases hconsistent kind with ⟨path, contents, hpath, hrender⟩ | ⟨hpath, hrender⟩
    · rw [hpath, hrender]
      exact ⟨fun _ => ⟨contents, rfl⟩, fun _ => rfl⟩
    · rw [hpath, hrender]
      exact ⟨nofun, nofun⟩
  · obtain ⟨artifacts, hemitted, hkinds, hsingle⟩ :=
      emitKinds_of_consistent hconsistent Kind.all
    refine ⟨artifacts, hemitted, hkinds, ?_, hsingle⟩
    rw [hkinds]
    exact (by decide : Kind.all.Nodup).filter _
  · have hwiring : kind = .wiring := by
      cases l <;> cases kind <;> first | rfl | cases hnone
    rcases hconsistent kind with ⟨path, contents, hpath, -⟩ | ⟨-, hrender⟩
    · rw [hnone] at hpath
      cases hpath
    · refine ⟨hwiring, ?_, renderOne_eq hrender⟩
      rw [hwiring] at hrender
      exact hrender

end Emitter

end AccessLayer
