import AccessLayer.Proofs.Artifact.Emission

namespace AccessLayer

open Text AccessLayer.Tree

namespace Language

/-- The names that lead from the output directory to an artifact. -/
def steps? (l : Language) (table : String) (kind : Kind) : Option (List String) :=
  match l with
  | rust => some ["model", table, l.moduleName kind ++ "." ++ l.extension]
  | python => some [table, l.moduleName kind ++ "." ++ l.extension]
  | cpp => (l.fileName? table kind).map fun file => [headerFolder kind, file]
  | go => (l.fileName? table kind).map fun file => [file]

private theorem exists_ne_dot {table : String} (h : IsName table.toList) :
    ∃ c ∈ table.toList, (c != '.') = true := by
  obtain ⟨c, hc⟩ := List.exists_mem_of_ne_nil _ h.1
  have hdot : c ≠ '.' := by
    rintro rfl
    exact h.not_mem (by decide) hc
  exact ⟨c, hc, by simpa using hdot⟩

private theorem module_free (l : Language) (kind : Kind) :
    '/' ∉ (l.moduleName kind ++ "." ++ l.extension).toList ∧
      (l.moduleName kind ++ "." ++ l.extension).toList.any (· != '.') = true := by
  cases l <;> cases kind <;> decide

/-- A file name holds no slash and is not made of dots alone, so it is a step down. -/
theorem fileName_free {l : Language} {table file : String} {kind : Kind}
    (h : IsName table.toList) (hfile : l.fileName? table kind = some file) :
    '/' ∉ file.toList ∧ file.toList.any (· != '.') = true := by
  have hslash : '/' ∉ table.toList := h.not_mem (by decide)
  have hextension : '/' ∉ l.extension.toList := by cases l <;> decide
  obtain ⟨c, hc, hdot⟩ := exists_ne_dot h
  cases kind with
  | wiring => cases hfile
  | model | contract | store | mock =>
    obtain rfl := Option.some.inj hfile
    constructor
    · simp [hslash, hextension]
    · exact List.any_eq_true.mpr ⟨c, by simp [hc], hdot⟩

private theorem leads_by {path : Path} {steps : List String} (hplain : IsPlain path)
    (hnames : names path = steps) :
    (some path).map names = some steps ∧ ∀ other, some path = some other → IsPlain other := by
  refine ⟨congrArg some hnames, fun other hother => ?_⟩
  obtain rfl := Option.some.inj hother
  exact hplain

/-- The path of an artifact consists of its steps, each a step down. -/
theorem artifactPath_names (l : Language) {table : String} (h : IsName table.toList) (kind : Kind) :
    (l.artifactPath? table kind).map names = l.steps? table kind ∧
      ∀ path, l.artifactPath? table kind = some path → IsPlain path := by
  have hslash : '/' ∉ table.toList := h.not_mem (by decide)
  have htable : IsPlain ⟨table⟩ :=
    isPlain_of_free hslash (List.any_eq_true.mpr (exists_ne_dot h))
  cases l with
  | rust =>
    have hfree := module_free rust kind
    have hmodel : IsPlain ⟨"model"⟩ := isPlain_of_free (by decide) (by decide)
    have hfolder := hmodel.join htable
    have hfile := isPlain_of_free hfree.1 hfree.2
    refine leads_by (hfolder.join hfile) ?_
    rw [hfolder.names_join hfile, hmodel.names_join htable, names_of_free (by decide),
      names_of_free hslash, names_of_free hfree.1]
    rfl
  | python =>
    have hfree := module_free python kind
    have hfile := isPlain_of_free hfree.1 hfree.2
    refine leads_by (htable.join hfile) ?_
    rw [htable.names_join hfile, names_of_free hslash, names_of_free hfree.1]
    rfl
  | cpp =>
    unfold artifactPath? steps?
    cases hname : cpp.fileName? table kind with
    | none => exact ⟨rfl, fun path hpath => by cases hpath⟩
    | some file =>
      have hfree := fileName_free h hname
      have hfile := isPlain_of_free hfree.1 hfree.2
      have hslash : '/' ∉ (headerFolder kind).toList := by cases kind <;> decide
      have hfolder := isPlain_of_free hslash (by cases kind <;> decide)
      refine leads_by (hfolder.join hfile) ?_
      rw [hfolder.names_join hfile, names_of_free hslash, names_of_free hfree.1]
      rfl
  | go =>
    unfold artifactPath? steps?
    cases hname : go.fileName? table kind with
    | none => exact ⟨rfl, fun path hpath => by cases hpath⟩
    | some file =>
      have hfree := fileName_free h hname
      exact leads_by (isPlain_of_free hfree.1 hfree.2) (names_of_free hfree.1)

/-- The paths of a table are those of its kinds. -/
theorem mem_artifactPaths {l : Language} {table : String} {path : Path} :
    path ∈ l.artifactPaths table ↔ ∃ kind, l.artifactPath? table kind = some path := by
  simp only [artifactPaths, List.mem_filterMap, Kind.mem_all, true_and]

end Language

/-- The artifacts of a schema's tables have plain paths. -/
theorem Artifact.isPlain_path {l : Language} {service text : String} {a : Artifact}
    (h : a ∈ (readSchema text).flatMap (Artifact.ofTable l service)) : IsPlain a.path := by
  obtain ⟨t, ht, ha⟩ := List.mem_flatMap.mp h
  have hpath : a.path ∈ l.artifactPaths t.name := by
    rw [← Artifact.ofTable_paths l service t]
    exact List.mem_map_of_mem ha
  obtain ⟨kind, hkind⟩ := Language.mem_artifactPaths.mp hpath
  exact (l.artifactPath_names (isName_of_mem_readSchema ht) kind).2 a.path hkind

end AccessLayer
