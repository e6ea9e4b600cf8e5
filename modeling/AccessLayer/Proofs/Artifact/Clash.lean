import AccessLayer.Proofs.Artifact.Layout
import Mathlib.Data.List.Nodup
import Mathlib.Data.List.Pairwise

namespace AccessLayer

open Text AccessLayer.Tree

/-- What several owners have is distinct exactly when no two of them clash, if none of them has a
    thing twice and to clash is to have a thing in common. -/
theorem nodup_flatMap_iff_no_clash {α β : Type} {xs : List α} {f : α → List β}
    {clash : α → α → Prop} (hxs : xs.Nodup) (hself : ∀ x ∈ xs, (f x).Nodup ∧ ¬ clash x x)
    (hcommon : ∀ x ∈ xs, ∀ y ∈ xs, x ≠ y →
      ((∃ b ∈ f x, b ∈ f y) ↔ clash x y ∨ clash y x)) :
    (xs.flatMap f).Nodup ↔ ∀ x ∈ xs, ∀ y ∈ xs, ¬ clash x y := by
  rw [List.nodup_flatMap]
  constructor
  · rintro ⟨_, hpairs⟩ x hx y hy hclash
    have hne : x ≠ y := by
      rintro rfl
      exact (hself x hx).2 hclash
    have hsymm : Std.Symm (Function.onFun List.Disjoint f) :=
      ⟨fun _ _ h _ hb hother => h hother hb⟩
    obtain ⟨b, hb, hb'⟩ := (hcommon x hx y hy hne).mpr (Or.inl hclash)
    exact hpairs.forall hx hy hne hb hb'
  · intro hapart
    refine ⟨fun x hx => (hself x hx).1, hxs.pairwise_of_forall_ne ?_⟩
    intro x hx y hy hne b hb hb'
    rcases (hcommon x hx y hy hne).mp ⟨b, hb, hb'⟩ with hclash | hclash
    · exact hapart x hx y hy hclash
    · exact hapart y hy x hx hclash

namespace Language

/-- The name of `other` is what `table` calls one of its files, up to the extension, in the
    languages that keep the files of several tables in one folder. -/
def Clash (l : Language) (table other : String) : Prop :=
  match l with
  | rust | python => False
  | cpp => other = "pg_" ++ table ∨ other = "mock_" ++ table
  | go =>
    other = table ++ "_dao" ∨ other = "pg_" ++ table ++ "_dao" ∨
      other = "mock_" ++ table ++ "_dao" ∨ other = "pg_" ++ table ∨ other = "mock_" ++ table

instance (l : Language) (table other : String) : Decidable (l.Clash table other) :=
  match l with
  | rust | python => inferInstanceAs (Decidable False)
  | cpp => inferInstanceAs (Decidable (_ ∨ _))
  | go => inferInstanceAs (Decidable (_ ∨ _ ∨ _ ∨ _ ∨ _))

/-- The name of a file without its extension, in the languages with a file name per table. -/
def stem? (table : String) : Kind → Option String
  | .model => some table
  | .contract => some (table ++ "_dao")
  | .store => some ("pg_" ++ table ++ "_dao")
  | .mock => some ("mock_" ++ table ++ "_dao")
  | .wiring => none

private theorem fileName_eq_stem (l : Language) (table : String) (kind : Kind) :
    l.fileName? table kind = (stem? table kind).map (· ++ ("." ++ l.extension)) := by
  have hdot : "_dao." = "_dao" ++ "." := by decide
  cases kind <;> simp only [fileName?, stem?, hdot, String.append_assoc, Option.map_some,
    Option.map_none]

/-- Two files of one name belong to one artifact, or the name of one table comes from the other's:
    by a mark for stores and mocks, and for a model also by the ending of the other kinds. Every
    pair of kinds leaves an equation of two names, from which common ends are dropped. -/
theorem eq_of_stem_eq {n m stem : String} {j k : Kind} (hj : stem? n j = some stem)
    (hk : stem? m k = some stem) :
    n = m ∧ j = k ∨ (cpp.Clash n m ∨ cpp.Clash m n) ∨
      (j = .model ∧ k ≠ .model ∧ go.Clash m n ∨ k = .model ∧ j ≠ .model ∧ go.Clash n m) := by
  have hmarks : ∀ n m : String, "pg_" ++ n ≠ "mock_" ++ m := by
    intro n m h
    have hlists := congrArg String.toList h
    simp at hlists
  have hmarks' : ∀ n m : String, "mock_" ++ n ≠ "pg_" ++ m := fun n m => (hmarks m n).symm
  cases j <;> cases k <;> simp only [stem?, Option.some.injEq, reduceCtorEq] at hj hk <;>
    subst hj <;> simp_all [Clash, String.append_left_inj, String.append_right_inj]

private theorem eq_of_fileName_eq {l : Language} {n m file : String} {j k : Kind}
    (hj : l.fileName? n j = some file) (hk : l.fileName? m k = some file) :
    n = m ∧ j = k ∨ (cpp.Clash n m ∨ cpp.Clash m n) ∨
      (j = .model ∧ k ≠ .model ∧ go.Clash m n ∨ k = .model ∧ j ≠ .model ∧ go.Clash n m) := by
  rw [fileName_eq_stem] at hj hk
  obtain ⟨stem, hstem, rfl⟩ := Option.map_eq_some_iff.mp hj
  obtain ⟨stem', hstem', hsame⟩ := Option.map_eq_some_iff.mp hk
  rw [(String.append_left_inj _).mp hsame] at hstem'
  exact eq_of_stem_eq hstem hstem'

private theorem moduleName_injective {l : Language} {j k : Kind}
    (h : l.moduleName j ++ "." ++ l.extension = l.moduleName k ++ "." ++ l.extension) : j = k := by
  have hname := (String.append_left_inj _).mp ((String.append_left_inj _).mp h)
  revert hname
  cases l <;> cases j <;> cases k <;> decide

/-- Two artifacts on one path are the same, or the tables they belong to clash. Models may have a
    folder of their own, so that only the marks can make two names the same. -/
theorem eq_or_clash_of_steps_eq {l : Language} {n m : String} {j k : Kind} {steps : List String}
    (hj : l.steps? n j = some steps) (hk : l.steps? m k = some steps) :
    n = m ∧ j = k ∨ l.Clash n m ∨ l.Clash m n := by
  cases l with
  | rust =>
    have hsame := (Option.some.inj hj).trans (Option.some.inj hk).symm
    simp only [List.cons.injEq, and_true, true_and] at hsame
    exact Or.inl ⟨hsame.1, moduleName_injective hsame.2⟩
  | python =>
    have hsame := (Option.some.inj hj).trans (Option.some.inj hk).symm
    simp only [List.cons.injEq, and_true] at hsame
    exact Or.inl ⟨hsame.1, moduleName_injective hsame.2⟩
  | cpp =>
    obtain ⟨file, hfile, rfl⟩ := Option.map_eq_some_iff.mp hj
    obtain ⟨file', hfile', hsame⟩ := Option.map_eq_some_iff.mp hk
    simp only [List.cons.injEq, and_true] at hsame
    obtain ⟨hfolder, rfl⟩ := hsame
    rcases eq_of_fileName_eq hfile hfile' with heq | hclash | ⟨rfl, hother, _⟩ | ⟨rfl, hother, _⟩
    · exact Or.inl heq
    · exact Or.inr hclash
    · cases k <;> simp_all [headerFolder]
    · cases j <;> simp_all [headerFolder]
  | go =>
    obtain ⟨file, hfile, rfl⟩ := Option.map_eq_some_iff.mp hj
    obtain ⟨file', hfile', hsame⟩ := Option.map_eq_some_iff.mp hk
    simp only [List.cons.injEq, and_true] at hsame
    obtain rfl := hsame
    have hweaker {a b : String} (h : cpp.Clash a b) : go.Clash a b :=
      Or.inr (Or.inr (Or.inr h))
    rcases eq_of_fileName_eq hfile hfile' with
      heq | (hclash | hclash) | ⟨_, _, hclash⟩ | ⟨_, _, hclash⟩
    · exact Or.inl heq
    · exact Or.inr (Or.inl (hweaker hclash))
    · exact Or.inr (Or.inr (hweaker hclash))
    · exact Or.inr (Or.inr hclash)
    · exact Or.inr (Or.inl hclash)

/-- Clashing tables have artifacts on one path. -/
theorem exists_steps_of_clash {l : Language} {n m : String} (h : l.Clash n m) :
    ∃ j k steps, l.steps? n j = some steps ∧ l.steps? m k = some steps := by
  cases l with
  | rust | python => exact h.elim
  | cpp =>
    simp only [steps?, fileName_eq_stem]
    rcases h with rfl | rfl
    · exact ⟨.store, .contract, _, rfl, rfl⟩
    · exact ⟨.mock, .contract, _, rfl, rfl⟩
  | go =>
    simp only [steps?, fileName_eq_stem]
    rcases h with rfl | rfl | rfl | rfl | rfl
    · exact ⟨.contract, .model, _, rfl, rfl⟩
    · exact ⟨.store, .model, _, rfl, rfl⟩
    · exact ⟨.mock, .model, _, rfl, rfl⟩
    · exact ⟨.store, .contract, _, rfl, rfl⟩
    · exact ⟨.mock, .contract, _, rfl, rfl⟩

/-- No table clashes with itself. -/
theorem not_clash_self (l : Language) (n : String) : ¬ l.Clash n n := by
  intro h
  have hlonger {f b : String} (hmark : 0 < f.length + b.length) (hsame : n = f ++ n ++ b) :
      False := by
    have hlength := congrArg String.length hsame
    rw [String.length_append, String.length_append] at hlength
    omega
  cases l with
  | rust | python => exact h
  | cpp =>
    rcases h with h | h
    · exact hlonger (f := "pg_") (b := "") (by decide) (by simpa using h)
    · exact hlonger (f := "mock_") (b := "") (by decide) (by simpa using h)
  | go =>
    rcases h with h | h | h | h | h
    · exact hlonger (f := "") (b := "_dao") (by decide) (by simpa using h)
    · exact hlonger (by decide) h
    · exact hlonger (by decide) h
    · exact hlonger (f := "pg_") (b := "") (by decide) (by simpa using h)
    · exact hlonger (f := "mock_") (b := "") (by decide) (by simpa using h)

/-- What holds of steps below the output directory holds of whole paths, as names of tables have no
    slashes and no dots in them. -/
theorem eq_or_clash_of_artifactPath_eq {l : Language} {n m : String} {j k : Kind} {path : Path}
    (hn : IsName n.toList) (hm : IsName m.toList) (hj : l.artifactPath? n j = some path)
    (hk : l.artifactPath? m k = some path) : n = m ∧ j = k ∨ l.Clash n m ∨ l.Clash m n := by
  have hstepsN := (l.artifactPath_names hn j).1
  have hstepsM := (l.artifactPath_names hm k).1
  rw [hj] at hstepsN
  rw [hk] at hstepsM
  exact eq_or_clash_of_steps_eq hstepsN.symm hstepsM.symm

/-- Conversely, one path is written twice for tables that clash. -/
theorem exists_artifactPath_of_clash {l : Language} {n m : String} (hn : IsName n.toList)
    (hm : IsName m.toList) (h : l.Clash n m) :
    ∃ path, path ∈ l.artifactPaths n ∧ path ∈ l.artifactPaths m := by
  obtain ⟨j, k, steps, hj, hk⟩ := exists_steps_of_clash h
  rw [← (l.artifactPath_names hn j).1] at hj
  rw [← (l.artifactPath_names hm k).1] at hk
  obtain ⟨path, hpath, hsteps⟩ := Option.map_eq_some_iff.mp hj
  obtain ⟨path', hpath', hsteps'⟩ := Option.map_eq_some_iff.mp hk
  have hsame : path = path' := names_injective (hsteps.trans hsteps'.symm)
  rw [← hsame] at hpath'
  exact ⟨path, mem_artifactPaths.mpr ⟨j, hpath⟩, mem_artifactPaths.mpr ⟨k, hpath'⟩⟩

/-- Tables with different names have artifacts with different paths exactly when no two of them
    clash. -/
theorem artifactPaths_nodup_iff (l : Language) {tables : List Table}
    (hnames : ∀ t ∈ tables, IsName t.name.toList) (hdistinct : (tables.map (·.name)).Nodup) :
    (tables.flatMap fun t => l.artifactPaths t.name).Nodup ↔
      ∀ t ∈ tables, ∀ u ∈ tables, ¬ l.Clash t.name u.name := by
  refine nodup_flatMap_iff_no_clash hdistinct.of_map (fun t ht => ⟨?_, not_clash_self l t.name⟩)
    fun t ht u hu hne => ⟨?_, ?_⟩
  · refine List.Nodup.filterMap ?_ (by decide)
    intro j k path hj hk
    rcases eq_or_clash_of_artifactPath_eq (hnames t ht) (hnames t ht) hj hk with
      ⟨_, hkind⟩ | hclash | hclash
    · exact hkind
    · exact absurd hclash (not_clash_self l t.name)
    · exact absurd hclash (not_clash_self l t.name)
  · rintro ⟨path, hpath, hpath'⟩
    obtain ⟨j, hj⟩ := mem_artifactPaths.mp hpath
    obtain ⟨k, hk⟩ := mem_artifactPaths.mp hpath'
    rcases eq_or_clash_of_artifactPath_eq (hnames t ht) (hnames u hu) hj hk with
      ⟨hname, _⟩ | hclash
    · exact absurd (List.inj_on_of_nodup_map hdistinct ht hu hname) hne
    · exact hclash
  · rintro (hclash | hclash)
    · exact exists_artifactPath_of_clash (hnames t ht) (hnames u hu) hclash
    · obtain ⟨path, hpath, hpath'⟩ :=
        exists_artifactPath_of_clash (hnames u hu) (hnames t ht) hclash
      exact ⟨path, hpath', hpath⟩

end Language

end AccessLayer
