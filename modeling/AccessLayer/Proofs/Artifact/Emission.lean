import AccessLayer.Proofs.Files.Join
import AccessLayer.Proofs.Schema.Occurrence
import AccessLayer.Registry
import AccessLayer.Schema.Reading

namespace AccessLayer

open Text AccessLayer.Tree

/-- The tables of a schema have names, not just any texts. -/
theorem isName_of_mem_readSchema {text : String} {t : Table} (h : t ∈ readSchema text) :
    IsName t.name.toList := by
  obtain ⟨b, hb, rfl⟩ := List.mem_map.mp h
  have hname := Block.isName_of_mem_all hb
  simpa [Block.table] using hname

/-- The artifacts of a table, in the order of their kinds. -/
def Artifact.ofTable (l : Language) (service : String) (t : Table) : List Artifact :=
  Kind.all.filterMap fun kind =>
    (l.artifactPath? t.name kind).bind fun path =>
      ((Blueprint.ofTable l service t).render? kind).map fun contents =>
        ⟨t.name, kind, path, contents⟩

/-- An artifact stands on the path of its kind and holds the lines of its kind. -/
theorem Artifact.of_mem_ofTable {l : Language} {service : String} {t : Table} {a : Artifact}
    (h : a ∈ Artifact.ofTable l service t) :
    ∃ ls, l.artifactPath? t.name a.kind = some a.path ∧
      (Blueprint.ofTable l service t).lines? a.kind = some ls ∧ a.contents = Line.render l ls := by
  obtain ⟨kind, -, hmade⟩ := List.mem_filterMap.mp h
  obtain ⟨path, hpath, hrendered⟩ := Option.bind_eq_some_iff.mp hmade
  obtain ⟨contents, hcontents, rfl⟩ := Option.map_eq_some_iff.mp hrendered
  obtain ⟨ls, hls, rfl⟩ := Option.map_eq_some_iff.mp hcontents
  exact ⟨ls, hpath, hls, rfl⟩

/-- The artifacts of a table that are no wiring are always made. -/
theorem Artifact.exists_mem_ofTable (l : Language) (service : String) (t : Table) {kind : Kind}
    (hkind : kind ≠ .wiring) : ∃ path ls, l.artifactPath? t.name kind = some path ∧
      (Blueprint.ofTable l service t).lines? kind = some ls ∧
        ⟨t.name, kind, path, Line.render l ls⟩ ∈ Artifact.ofTable l service t := by
  have hpath : ∃ path, l.artifactPath? t.name kind = some path := by
    cases l <;> cases kind <;> first | exact ⟨_, rfl⟩ | exact absurd rfl hkind
  have hlines : ∃ ls, (Blueprint.ofTable l service t).lines? kind = some ls := by
    cases kind <;> first | exact ⟨_, rfl⟩ | exact absurd rfl hkind
  obtain ⟨path, hpath⟩ := hpath
  obtain ⟨ls, hlines⟩ := hlines
  refine ⟨path, ls, hpath, hlines, List.mem_filterMap.mpr ⟨kind, Kind.mem_all kind, ?_⟩⟩
  rw [hpath, Option.bind_some, Blueprint.render?, hlines]
  rfl

/-- The paths of a table's artifacts, in the order of their kinds. -/
def Language.artifactPaths (l : Language) (table : String) : List Path :=
  Kind.all.filterMap (l.artifactPath? table)

namespace Emitter

/-- The built-in emitters never fail. -/
theorem emitAll_builtIn (l : Language) (service : String) (t : Table) :
    (builtIn l service).emitAll t = .ok (Artifact.ofTable l service t) := by
  have hkinds (kinds : List Kind) :
      (builtIn l service).emitKinds t kinds = .ok (kinds.filterMap fun kind =>
        (l.artifactPath? t.name kind).bind fun path =>
          ((Blueprint.ofTable l service t).render? kind).map fun contents =>
            ⟨t.name, kind, path, contents⟩) := by
    induction kinds with
    | nil => rfl
    | cons kind kinds ih =>
      rw [emitKinds, List.filterMap_cons]
      simp only [builtIn, blueprint] at ih ⊢
      cases l.artifactPath? t.name kind with
      | none => exact ih
      | some path =>
        cases (Blueprint.ofTable l service t).render? kind with
        | none => exact ih
        | some contents => simp [ih, Except.map]
  exact hkinds Kind.all

/-- The built-in emitters make the artifacts of every schema. -/
theorem mapM_emitAll_builtIn (l : Language) (service : String) (tables : List Table) :
    tables.mapM (builtIn l service).emitAll = .ok (tables.map (Artifact.ofTable l service)) := by
  induction tables with
  | nil => rfl
  | cons t tables ih =>
    rw [List.mapM_cons, emitAll_builtIn, ih]
    rfl

end Emitter

private theorem Registry.maker_builtIn (l : Language) :
    Registry.builtIn.maker? l = some (Emitter.builtIn l) := by
  cases l <;> rfl

/-- The built-in registry serves every language by its own emitter. -/
theorem Registry.create_builtIn (asked service : String) :
    Registry.builtIn.create? asked service =
      (Language.ofName? asked).map fun l => Emitter.builtIn l service := by
  unfold create?
  cases Language.ofName? asked with
  | none => rfl
  | some l =>
    change (Registry.builtIn.maker? l).bind (fun make => some (make service)) = _
    rw [maker_builtIn]
    rfl

/-- What has a path is rendered. -/
theorem Artifact.ofTable_paths (l : Language) (service : String) (t : Table) :
    (Artifact.ofTable l service t).map (·.path) = l.artifactPaths t.name := by
  have hrendered (kind : Kind) (hpath : (l.artifactPath? t.name kind).isSome) :
      ((Blueprint.ofTable l service t).render? kind).isSome := by
    cases l <;> cases kind <;> first | rfl | cases hpath
  unfold Artifact.ofTable Language.artifactPaths
  rw [List.map_filterMap]
  congr 1
  funext kind
  cases hpath : l.artifactPath? t.name kind with
  | none => rfl
  | some path =>
    obtain ⟨contents, hcontents⟩ := Option.isSome_iff_exists.mp (hrendered kind (by rw [hpath]; rfl))
    simp [hcontents]

end AccessLayer
