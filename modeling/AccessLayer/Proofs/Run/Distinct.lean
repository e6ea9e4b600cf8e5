import AccessLayer.Proofs.Artifact.Clash
import AccessLayer.Proofs.Run.Placed
import Mathlib.Data.List.Dedup

namespace AccessLayer

namespace Run

open AccessLayer.Tree Sandbox

private theorem length_dedup_eq_iff {α : Type} [DecidableEq α] {xs : List α} :
    xs.length = xs.dedup.length ↔ xs.Nodup := by
  rw [← List.dedup_eq_self]
  constructor
  · intro h
    exact (List.dedup_sublist xs).eq_of_length h.symm
  · intro h
    rw [h]

/-- The files of a run without failures are apart exactly when the paths of its artifacts are. -/
theorem Writes.places_nodup_iff {o : Options} {s s' : Sandbox} {artifacts : List Artifact}
    {written : List Path} (h : Writes o s artifacts written [] s')
    (hplain : ∀ a ∈ artifacts, IsPlain a.path) :
    (written.map s'.tree.placeOf?).Nodup ↔ (artifacts.map (·.path)).Nodup := by
  have hplaces : written.map s'.tree.placeOf? =
      (artifacts.map (·.path)).map fun p => s'.tree.placeOf? (o.output.join p) := by
    rw [h.written_eq rfl, List.map_map, List.map_map]
    rfl
  rw [hplaces]
  constructor
  · exact List.Nodup.of_map _
  · intro hpaths
    refine hpaths.map_on fun p hp q hq hsame => ?_
    obtain ⟨a, ha, rfl⟩ := List.mem_map.mp hp
    obtain ⟨b, hb, rfl⟩ := List.mem_map.mp hq
    have hwritten : o.output.join a.path ∈ written := by
      rw [h.written_eq rfl]
      exact List.mem_map.mpr ⟨a, ha, rfl⟩
    obtain ⟨_, place, _, hholds⟩ := h.holds_last hplain hwritten
    exact eq_of_placeOf?_join (hplain a ha) (hplain b hb) hholds.placeOf?
      (hsame.symm.trans hholds.placeOf?)

/-- The artifacts of tables with different names have different paths, and a run without failures
    writes as many files as it reports, exactly when no two tables clash. -/
theorem paths_distinct_iff_no_clash (l : Language) (service text : String)
    (hdistinct : ((readSchema text).map (·.name)).Nodup) :
    ∃ emitted, (readSchema text).mapM (Emitter.builtIn l service).emitAll = .ok emitted ∧
      ((emitted.flatten.map (·.path)).Nodup ↔
        ∀ t ∈ readSchema text, ∀ u ∈ readSchema text, ¬ l.Clash t.name u.name) ∧
      ∀ (o : Options) (s s' : Sandbox) (r : Report), o.dryRun = false →
        Language.ofName? o.language = some l → s.tree.readText o.schema = .ok text →
        (generate host o).run s = (.ok r, s') → r.isSuccess →
        (r.written.length = (r.written.map s'.tree.placeOf?).dedup.length ↔
          ∀ t ∈ readSchema text, ∀ u ∈ readSchema text, ¬ l.Clash t.name u.name) := by
  have hpaths (service : String) :
      (((readSchema text).flatMap (Artifact.ofTable l service)).map (·.path)).Nodup ↔
        ∀ t ∈ readSchema text, ∀ u ∈ readSchema text, ¬ l.Clash t.name u.name := by
    rw [List.map_flatMap]
    simp only [Artifact.ofTable_paths]
    exact l.artifactPaths_nodup_iff (fun t ht => isName_of_mem_readSchema ht) hdistinct
  refine ⟨_, Emitter.mapM_emitAll_builtIn l service (readSchema text), ?_, ?_⟩
  · rw [← List.flatMap_def]
    exact hpaths service
  · intro o s s' r hdry hlanguage hread hrun hsuccess
    rw [StateT.run] at hrun
    obtain ⟨l', text', hlanguage', hread', hwrites, _⟩ := writes_of_generate hdry hrun
    obtain rfl : l = l' := Option.some.inj (hlanguage.symm.trans hlanguage')
    obtain rfl : text = text' := Except.ok.inj (hread.symm.trans hread')
    have hnone : r.failures = [] := List.isEmpty_iff.mp hsuccess
    rw [hnone] at hwrites
    rw [← hpaths o.service, ← hwrites.places_nodup_iff fun a ha => Artifact.isPlain_path ha,
      ← length_dedup_eq_iff, List.length_map]

/-- A sandbox with a schema of two tables that do not clash, and nothing else. -/
def shop : Sandbox :=
  ⟨⟨[(["shop.sql"],
    .file "CREATE TABLE users (id UUID);CREATE TABLE orders (id UUID);".toUTF8)], []⟩, false⟩

/-- A run for the shop's schema in a language that keeps all files in one folder. -/
def shopOptions : Options :=
  { Options.ofSchema ⟨"shop.sql"⟩ "go" with output := ⟨"out"⟩ }

/-- Two tables whose names have nothing in common write eight files. -/
theorem paths_distinct_iff_no_clash_shop :
    ((readSchema "CREATE TABLE users (id UUID);CREATE TABLE orders (id UUID);").map
      (·.name)).Nodup ∧
    (∃ emitted,
      (readSchema "CREATE TABLE users (id UUID);CREATE TABLE orders (id UUID);").mapM
        (Emitter.builtIn .go "shop").emitAll = .ok emitted ∧
      (emitted.flatten.map (·.path)).Nodup) ∧
    ∃ r s', (generate host shopOptions).run shop = (.ok r, s') ∧ r.isSuccess ∧
      r.written.length = 8 ∧ (r.written.map s'.tree.placeOf?).dedup.length = 8 := by
  have hdistinct : ((readSchema "CREATE TABLE users (id UUID);CREATE TABLE orders (id UUID);").map
      (·.name)).Nodup := by
    decide +kernel
  have hapart : ∀ t ∈ readSchema "CREATE TABLE users (id UUID);CREATE TABLE orders (id UUID);",
      ∀ u ∈ readSchema "CREATE TABLE users (id UUID);CREATE TABLE orders (id UUID);",
        ¬ Language.go.Clash t.name u.name := by
    decide +kernel
  have hread : shop.tree.readText ⟨"shop.sql"⟩ =
      .ok "CREATE TABLE users (id UUID);CREATE TABLE orders (id UUID);" := by
    decide +kernel
  have hreport : ((generate host shopOptions).run shop).1 = .ok
      { Report.start .go shopOptions with
        tables := 2
        written := [⟨"out/users.go"⟩, ⟨"out/users_dao.go"⟩, ⟨"out/pg_users_dao.go"⟩,
          ⟨"out/mock_users_dao.go"⟩, ⟨"out/orders.go"⟩, ⟨"out/orders_dao.go"⟩,
          ⟨"out/pg_orders_dao.go"⟩, ⟨"out/mock_orders_dao.go"⟩] } := by
    decide +kernel
  obtain ⟨emitted, hemitted, hpaths, hfiles⟩ := paths_distinct_iff_no_clash .go "shop" _ hdistinct
  refine ⟨hdistinct, ⟨emitted, hemitted, hpaths.mpr hapart⟩, ?_⟩
  cases hrun : (generate host shopOptions).run shop with
  | mk result s' =>
    rw [hrun] at hreport
    simp only at hreport
    subst hreport
    have hcount := (hfiles shopOptions shop s' _ rfl (by decide) hread hrun rfl).mpr hapart
    exact ⟨_, s', rfl, rfl, rfl, hcount.symm⟩

/-- Tables named `users` and `users_dao` clash where the files of all tables share a folder: the
    contract of the first goes where the model of the second goes. -/
theorem users_dao_shares_a_path :
    ((readSchema "CREATE TABLE users (id UUID);CREATE TABLE users_dao (id UUID);").map
      (·.name)).Nodup ∧
    ∃ emitted,
      (readSchema "CREATE TABLE users (id UUID);CREATE TABLE users_dao (id UUID);").mapM
        (Emitter.builtIn .go "shop").emitAll = .ok emitted ∧
      ¬ (emitted.flatten.map (·.path)).Nodup := by
  refine ⟨by decide +kernel, _, Emitter.mapM_emitAll_builtIn .go "shop" _, ?_⟩
  have hschema : readSchema "CREATE TABLE users (id UUID);CREATE TABLE users_dao (id UUID);" =
      [⟨"users", [⟨"id", .uuid, true, false, none⟩]⟩,
        ⟨"users_dao", [⟨"id", .uuid, true, false, none⟩]⟩] := by
    decide +kernel
  rw [← List.flatMap_def, List.map_flatMap, hschema]
  simp only [Artifact.ofTable_paths]
  decide +kernel

end Run

end AccessLayer
