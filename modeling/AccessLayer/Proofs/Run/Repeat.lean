import AccessLayer.Proofs.Artifact.Layout
import AccessLayer.Proofs.Run.Completion

namespace AccessLayer

namespace Run

open AccessLayer.Tree Sandbox

variable {o : Options} {s s' : Sandbox} {artifacts : List Artifact} {written : List Path}
  {failed : List WriteFailure}

/-- A file is there for every artifact, perhaps with other contents. -/
def InPlace (o : Options) (s : Sandbox) (artifacts : List Artifact) : Prop :=
  ∀ a ∈ artifacts, ∃ place bytes, Holds s (o.output.join a.path) place bytes

/-- What is in place stays there while the tree grows. -/
theorem InPlace.grows (h : InPlace o s artifacts) (hgrows : Grows s.tree s'.tree) :
    InPlace o s' artifacts := by
  intro a ha
  obtain ⟨place, bytes, hholds⟩ := h a ha
  obtain ⟨bytes', hstill⟩ := hholds.grows hgrows
  exact ⟨place, bytes', hstill⟩

/-- A run that notes no failure leaves everything in place. -/
theorem Writes.inPlace (h : Writes o s artifacts written failed s') (hfailed : failed = []) :
    InPlace o s' artifacts := by
  induction h with
  | nil s =>
    intro a ha
    cases ha
  | @wrote _ s₁ s' a rest _ _ hwrite hrest ih =>
    intro b hb
    rcases List.mem_cons.mp hb with rfl | hlater
    · obtain ⟨place, hholds, _⟩ := writeBelow_eq_ok hwrite
      obtain ⟨bytes, hstill⟩ := hholds.grows hrest.alters.grows
      exact ⟨place, bytes, hstill⟩
    · exact ih hfailed b hlater
  | failed => cases hfailed

/-- Where everything is in place nothing fails, and entries change at most where artifacts belong. -/
theorem InPlace.writes (hplace : InPlace o s artifacts)
    (h : Writes o s artifacts written failed s') :
    failed = [] ∧ ∀ place, (∀ a ∈ artifacts, s'.tree.placeOf? (o.output.join a.path) ≠ some place) →
      s'.tree.slot place = s.tree.slot place := by
  induction h with
  | nil s => exact ⟨rfl, fun _ _ => rfl⟩
  | @wrote s s₁ s' a rest _ _ hwrite hrest ih =>
    obtain ⟨here, bytes, hholds⟩ := hplace a (by simp)
    have hgrows : Grows s.tree s₁.tree := by
      obtain ⟨_, _, halters⟩ := writeBelow_eq_ok hwrite
      exact halters.grows
    have hafter : InPlace o s₁ rest :=
      InPlace.grows (fun b hb => hplace b (List.mem_cons_of_mem a hb)) hgrows
    obtain ⟨hnone, hothers⟩ := ih hafter
    refine ⟨hnone, fun place hapart => ?_⟩
    have hne : place ≠ here := by
      rintro rfl
      exact hapart a (by simp) (hrest.alters.grows.placeOf? (hgrows.placeOf? hholds.placeOf?))
    rw [hothers place fun b hb => hapart b (List.mem_cons_of_mem a hb)]
    rw [hholds.writeBelow] at hwrite
    obtain ⟨_, rfl⟩ := Prod.mk.inj hwrite
    exact slot_set_of_ne _ hne
  | @failed s s₁ s' a rest _ _ fault hwrite _ _ =>
    obtain ⟨here, bytes, hholds⟩ := hplace a (by simp)
    rw [hholds.writeBelow] at hwrite
    cases (Prod.mk.inj hwrite).1

/-- Where everything is in place no run aborts. -/
theorem InPlace.unhindered (h : InPlace o s artifacts) : Unhindered o s.tree artifacts := by
  rintro before a after fault t' rfl hfails
  obtain ⟨between, hbetween⟩ := hfails.writes
  obtain ⟨hbefore, hfault⟩ := hbetween s.cancelled
  obtain ⟨place, bytes, hholds⟩ := h a (by simp)
  obtain ⟨bytes', hstill⟩ := hholds.grows hbefore.alters.grows
  rw [hstill.writeBelow] at hfault
  cases (Prod.mk.inj hfault).1

/-- Nothing is hidden behind a written file. -/
theorem Writes.length_slot (h : Writes o s artifacts written failed s') {p : Path} (hp : p ∈ written)
    {place : Place} (hplace : s'.tree.placeOf? p = some place) :
    (s'.tree.slot place).length ≤ 1 := by
  induction h with
  | nil => cases hp
  | @wrote s s₁ s' a rest _ _ hwrite hrest ih =>
    rcases List.mem_cons.mp hp with rfl | hlater
    · obtain ⟨here, hholds, _⟩ := writeBelow_eq_ok hwrite
      obtain rfl := Option.some.inj
        ((hrest.alters.grows.placeOf? hholds.placeOf?).symm.trans hplace)
      refine hrest.keeps (P := fun t => (t.slot here).length ≤ 1)
        (fun t other e hone => length_slot_set hone other e) ?_
      rw [slot_of_writeBelow hwrite hholds.placeOf?]
      exact Nat.le_refl 1
    · exact ih hlater hplace
  | failed _ _ ih => exact ih hp hplace

/-- Of two runs with the same artifacts that note no failures, the second leaves the files as they
    are. After either run each file holds the contents of the last artifact that belongs there. -/
theorem Writes.agrees_again {s'' : Sandbox} {written' : List Path}
    (hplain : ∀ a ∈ artifacts, IsPlain a.path) (h : Writes o s artifacts written [] s')
    (h' : Writes o s' artifacts written' [] s'') : Agrees s'.tree s''.tree := by
  have hinPlace := h.inPlace rfl
  have hsame : written' = written := (h'.written_eq rfl).trans (h.written_eq rfl).symm
  subst hsame
  refine agrees_of_slot h'.alters.grows.workingFolder fun place => ?_
  by_cases hthere : ∃ a ∈ artifacts, s''.tree.placeOf? (o.output.join a.path) = some place
  · obtain ⟨a, ha, hplace⟩ := hthere
    have hp : o.output.join a.path ∈ written' := by
      rw [h.written_eq rfl]
      exact List.mem_map_of_mem ha
    obtain ⟨b, here, hlast, hholds⟩ := h.holds_last hplain hp
    obtain ⟨b', here', hlast', hholds'⟩ := h'.holds_last hplain hp
    obtain rfl := Option.some.inj (hlast.symm.trans hlast')
    obtain rfl := Option.some.inj (hholds'.placeOf?.symm.trans hplace)
    obtain rfl := Option.some.inj
      ((h'.alters.grows.placeOf? hholds.placeOf?).symm.trans hplace)
    have hone := h.length_slot hp hholds.placeOf?
    have hone' : (s''.tree.slot here).length ≤ 1 :=
      h'.keeps (P := fun t => (t.slot here).length ≤ 1)
        (fun t other e hkept => length_slot_set hkept other e) hone
    rw [slot_eq_of_get? hholds.names.ne_nil hone hholds.file,
      slot_eq_of_get? hholds.names.ne_nil hone' hholds'.file]
  · refine (hinPlace.writes h').2 place fun a ha hplace => hthere ⟨a, ha, hplace⟩

/-- A run that completed without failures is repeated with the same report, and leaves the files as
    they are, unless it has written over its own schema. Both reports list the paths of the same
    artifacts. -/
theorem generate_idempotent (o : Options) (s s' : Sandbox) (r : Report) (hdry : o.dryRun = false)
    (hcalm : o.watched = false ∨ s.cancelled = false)
    (hrun : (generate host o).run s = (.ok r, s')) (hnone : r.failures = [])
    (hschema : ∀ p ∈ r.written, s'.tree.placeOf? p ≠ s'.tree.placeOf? o.schema) :
    ∃ s'', (generate host o).run s' = (.ok r, s'') ∧ Agrees s'.tree s''.tree ∧
      s''.cancelled = s'.cancelled := by
  simp only [StateT.run] at hrun ⊢
  obtain ⟨l, text, planned, written, failed, hlanguage, hread, hplaced, rfl, hflag⟩ :=
    placed_of_generate hrun
  obtain rfl : failed = [] := hnone
  have hwrites := hplaced.writes hdry s.cancelled
  have hread' : s'.tree.readText o.schema = .ok text := hwrites.alters.readText hread hschema
  have hinPlace := hwrites.inPlace rfl
  obtain ⟨r', s'', hagain, hflag', _⟩ := generate_completes_of_unhindered (s := s') hlanguage hread'
    (by rw [hflag]; exact hcalm) hinPlace.unhindered
  obtain ⟨l', text', planned', written', failed', hlanguage', hread'', hplaced', rfl, _⟩ :=
    placed_of_generate hagain
  obtain rfl := Option.some.inj (hlanguage.symm.trans hlanguage')
  obtain rfl := Except.ok.inj (hread'.symm.trans hread'')
  have hwrites' := hplaced'.writes hdry s.cancelled
  obtain rfl := (hinPlace.writes hwrites').1
  have hagrees := hwrites.agrees_again (fun a ha => Artifact.isPlain_path ha) hwrites'
  have hpaths := hplaced.paths
  have hpaths' := hplaced'.paths
  rw [if_neg (by simp [hdry])] at hpaths hpaths'
  rw [hpaths'.1, hwrites'.written_eq rfl, ← hpaths.1, ← hwrites.written_eq rfl] at hagain
  exact ⟨s'', hagain, hagrees, hflag'⟩

/-- A sandbox with a schema of two tables of which the contract of one and the model of the other
    belong on one path, and with an old file there. -/
def shared : Sandbox :=
  ⟨⟨[(["shop.sql"], .file "CREATE TABLE users (id UUID);CREATE TABLE users_dao (id UUID);".toUTF8),
    (["out"], .folder), (["out", "users_dao.go"], .file "old".toUTF8)], []⟩, false⟩

/-- A run for the schema of the sandbox, which aborts where something cannot be written. -/
def sharedOptions : Options :=
  { Options.ofSchema ⟨"shop.sql"⟩ "go" with output := ⟨"out"⟩ }

/-- Two artifacts share a path, one file is there before, and the repeated run still leaves
    everything as it is. -/
theorem generate_idempotent_shared :
    sharedOptions.dryRun = false ∧ (sharedOptions.watched = false ∨ shared.cancelled = false) ∧
      ∃ r s' s'', (generate host sharedOptions).run shared = (.ok r, s') ∧ r.failures = [] ∧
        (∀ p ∈ r.written, s'.tree.placeOf? p ≠ s'.tree.placeOf? sharedOptions.schema) ∧
        r.written.length = 8 ∧ r.written.dedup.length = 7 ∧
        (generate host sharedOptions).run s' = (.ok r, s'') ∧ Agrees s'.tree s''.tree := by
  have hreport : ((generate host sharedOptions).run shared).1 = .ok
      { Report.start .go sharedOptions with
        tables := 2
        written := [⟨"out/users.go"⟩, ⟨"out/users_dao.go"⟩, ⟨"out/pg_users_dao.go"⟩,
          ⟨"out/mock_users_dao.go"⟩, ⟨"out/users_dao.go"⟩, ⟨"out/users_dao_dao.go"⟩,
          ⟨"out/pg_users_dao_dao.go"⟩, ⟨"out/mock_users_dao_dao.go"⟩] } := by
    decide +kernel
  have hplaces : ∀ p ∈ [(⟨"out/users.go"⟩ : Path), ⟨"out/users_dao.go"⟩, ⟨"out/pg_users_dao.go"⟩,
      ⟨"out/mock_users_dao.go"⟩, ⟨"out/users_dao.go"⟩, ⟨"out/users_dao_dao.go"⟩,
      ⟨"out/pg_users_dao_dao.go"⟩, ⟨"out/mock_users_dao_dao.go"⟩],
      ((generate host sharedOptions).run shared).2.tree.placeOf? p ≠
        ((generate host sharedOptions).run shared).2.tree.placeOf? sharedOptions.schema := by
    decide +kernel
  refine ⟨rfl, Or.inl rfl, ?_⟩
  cases hrun : (generate host sharedOptions).run shared with
  | mk result s' =>
    rw [hrun] at hreport hplaces
    simp only at hreport hplaces
    subst hreport
    obtain ⟨s'', hagain, hagrees, _⟩ :=
      generate_idempotent sharedOptions shared s' _ rfl (Or.inl rfl) hrun rfl hplaces
    exact ⟨_, s', s'', rfl, rfl, hplaces, rfl, rfl, hagain, hagrees⟩

end Run

end AccessLayer
