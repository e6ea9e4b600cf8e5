import AccessLayer.Proofs.Files.Effect
import AccessLayer.Run

namespace AccessLayer

namespace Run

open AccessLayer.Tree Sandbox

/-- Each artifact in turn is written, or fails to be and is noted; the run goes on either way. -/
inductive Writes (o : Options) :
    Sandbox → List Artifact → List Path → List WriteFailure → Sandbox → Prop where
  | nil (s : Sandbox) : Writes o s [] [] [] s
  | wrote {s s₁ s' : Sandbox} {a : Artifact} {rest : List Artifact} {written : List Path}
      {failed : List WriteFailure}
      (hwrite : host.writeBelow (o.output.join a.path) a.contents s = (.ok (), s₁))
      (hrest : Writes o s₁ rest written failed s') :
      Writes o s (a :: rest) (o.output.join a.path :: written) failed s'
  | failed {s s₁ s' : Sandbox} {a : Artifact} {rest : List Artifact} {written : List Path}
      {failed : List WriteFailure} {fault : FileFault}
      (hwrite : host.writeBelow (o.output.join a.path) a.contents s = (.error fault, s₁))
      (hrest : Writes o s₁ rest written failed s') :
      Writes o s (a :: rest) written (⟨o.output.join a.path, fault.message⟩ :: failed) s'

variable {o : Options} {s s' : Sandbox} {artifacts : List Artifact} {written : List Path}
  {failed : List WriteFailure}

/-- Writes are made one after the other, and what is told of them adds up. -/
theorem Writes.append {s'' : Sandbox} {more : List Artifact} {written' : List Path}
    {failed' : List WriteFailure} (h : Writes o s artifacts written failed s')
    (h' : Writes o s' more written' failed' s'') :
    Writes o s (artifacts ++ more) (written ++ written') (failed ++ failed') s'' := by
  induction h with
  | nil => exact h'
  | wrote hwrite _ ih => exact .wrote hwrite (ih h')
  | failed hwrite _ ih => exact .failed hwrite (ih h')

/-- What is written is the path of an artifact. -/
theorem Writes.mem_paths (h : Writes o s artifacts written failed s') {p : Path}
    (hp : p ∈ written) : ∃ a ∈ artifacts, o.output.join a.path = p := by
  induction h with
  | nil => cases hp
  | @wrote _ _ _ a rest written _ _ _ ih =>
    rcases List.mem_cons.mp hp with rfl | hlater
    · exact ⟨a, by simp, rfl⟩
    · obtain ⟨b, hb, hpath⟩ := ih hlater
      exact ⟨b, List.mem_cons_of_mem a hb, hpath⟩
  | @failed _ _ _ a _ _ _ _ _ _ ih =>
    obtain ⟨b, hb, hpath⟩ := ih hp
    exact ⟨b, List.mem_cons_of_mem a hb, hpath⟩

/-- Whether an artifact can be written is settled by what was there before. -/
theorem Writes.unique {s'' : Sandbox} {written' : List Path} {failed' : List WriteFailure}
    (h : Writes o s artifacts written failed s') (h' : Writes o s artifacts written' failed' s'') :
    written = written' ∧ failed = failed' ∧ s' = s'' := by
  induction h generalizing written' failed' with
  | nil =>
    cases h'
    exact ⟨rfl, rfl, rfl⟩
  | wrote hwrite _ ih =>
    cases h' with
    | wrote hwrite' hrest' =>
      obtain ⟨_, rfl⟩ := Prod.mk.inj (hwrite.symm.trans hwrite')
      obtain ⟨rfl, rfl, rfl⟩ := ih hrest'
      exact ⟨rfl, rfl, rfl⟩
    | failed hwrite' =>
      rw [hwrite] at hwrite'
      cases (Prod.mk.inj hwrite').1
  | failed hwrite _ ih =>
    cases h' with
    | wrote hwrite' =>
      rw [hwrite] at hwrite'
      cases (Prod.mk.inj hwrite').1
    | failed hwrite' hrest' =>
      obtain ⟨hfault, rfl⟩ := Prod.mk.inj (hwrite.symm.trans hwrite')
      obtain rfl := Except.error.inj hfault
      obtain ⟨rfl, rfl, rfl⟩ := ih hrest'
      exact ⟨rfl, rfl, rfl⟩

/-- A run without failures has written every artifact. -/
theorem Writes.written_eq (h : Writes o s artifacts written failed s') (hfailed : failed = []) :
    written = artifacts.map fun a => o.output.join a.path := by
  induction h with
  | nil => rfl
  | wrote _ _ ih => rw [ih hfailed, List.map_cons]
  | failed => cases hfailed

/-- Nothing but the written files and the folders above the artifacts is touched. -/
theorem Writes.alters (h : Writes o s artifacts written failed s') :
    Alters s s' written (artifacts.flatMap fun a => (o.output.join a.path).above) := by
  induction h with
  | nil s => exact Alters.refl s [] _
  | wrote hwrite _ ih =>
    obtain ⟨_, _, halters⟩ := writeBelow_eq_ok hwrite
    exact halters.trans ih
  | failed hwrite _ ih => exact (writeBelow_eq_error hwrite).trans ih

/-- What holds of a tree whatever entry is set in it is kept by a run. -/
theorem Writes.keeps {P : Tree → Prop} (hset : ∀ t place e, P t → P (t.set place e))
    (h : Writes o s artifacts written failed s') (hs : P s.tree) : P s'.tree := by
  induction h with
  | nil => exact hs
  | wrote hwrite _ ih => exact ih (keeps_writeBelow hset hwrite hs)
  | failed hwrite _ ih => exact ih (keeps_writeBelow hset hwrite hs)

/-- A file that is there once is written whenever one of the artifacts belongs on its path. -/
theorem Writes.mem_written (h : Writes o s artifacts written failed s') {a : Artifact}
    {place : Place} {bytes : ByteArray} (hholds : Holds s (o.output.join a.path) place bytes)
    (ha : a ∈ artifacts) : o.output.join a.path ∈ written := by
  induction h generalizing bytes with
  | nil => cases ha
  | wrote hwrite _ ih =>
    rcases List.mem_cons.mp ha with rfl | hlater
    · simp
    · obtain ⟨_, _, halters⟩ := writeBelow_eq_ok hwrite
      obtain ⟨_, hstill⟩ := hholds.grows halters.grows
      exact List.mem_cons_of_mem _ (ih hstill hlater)
  | failed hwrite _ ih =>
    rcases List.mem_cons.mp ha with rfl | hlater
    · rw [hholds.writeBelow] at hwrite
      cases (Prod.mk.inj hwrite).1
    · obtain ⟨_, hstill⟩ := hholds.grows (writeBelow_eq_error hwrite).grows
      exact ih hstill hlater

/-- What is written stays as it is until an artifact with the same path is written over it. Plain
    paths below one directory that lead to one place are one path. -/
theorem Writes.holds_of_not_mem (h : Writes o s artifacts written failed s')
    (hplain : ∀ a ∈ artifacts, IsPlain a.path) {path : Path} (hpath : IsPlain path) {place : Place}
    {bytes : ByteArray} (hholds : Holds s (o.output.join path) place bytes)
    (hnot : o.output.join path ∉ written) : Holds s' (o.output.join path) place bytes := by
  obtain ⟨bytes', hstill⟩ := hholds.grows h.alters.grows
  have hapart : ∀ q ∈ written, s'.tree.placeOf? q ≠ some place := by
    intro q hq hsame
    obtain ⟨b, hb, rfl⟩ := h.mem_paths hq
    have hjoined := eq_of_placeOf?_join (hplain b hb) hpath hsame hstill.placeOf?
    rw [hjoined] at hq
    exact hnot hq
  exact ⟨hstill.above, hstill.names, (h.alters.file place bytes hapart).mpr hholds.file⟩

/-- A written file holds the contents of the last artifact that belongs there. Writing the path once
    makes every later write to it succeed, so an artifact is the last on its path exactly when the
    rest of the run does not write there. -/
theorem Writes.holds_last (h : Writes o s artifacts written failed s')
    (hplain : ∀ a ∈ artifacts, IsPlain a.path) {p : Path} (hp : p ∈ written) :
    ∃ a place, artifacts.findRev? (fun a => o.output.join a.path = p) = some a ∧
      Holds s' p place a.contents.toUTF8 := by
  induction h with
  | nil => cases hp
  | @wrote s s₁ s' a rest written failed hwrite hrest ih =>
    have hplainRest : ∀ b ∈ rest, IsPlain b.path := fun b hb => hplain b (List.mem_cons_of_mem a hb)
    rw [List.findRev?]
    by_cases hlater : p ∈ written
    · obtain ⟨b, place, hlast, hholds⟩ := ih hplainRest hlater
      exact ⟨b, place, by rw [hlast], hholds⟩
    · have hhere : p = o.output.join a.path := by
        rcases List.mem_cons.mp hp with hhere | hmem
        · exact hhere
        · exact absurd hmem hlater
      subst hhere
      obtain ⟨place, hholds, _⟩ := writeBelow_eq_ok hwrite
      have hnone : rest.findRev? (fun b => o.output.join b.path = o.output.join a.path) = none := by
        rw [List.findRev?_eq_find?_reverse, List.find?_eq_none]
        intro b hb hsame
        have hpath : o.output.join b.path = o.output.join a.path := of_decide_eq_true hsame
        rw [← hpath] at hholds hlater
        exact hlater (hrest.mem_written hholds (List.mem_reverse.mp hb))
      refine ⟨a, place, by rw [hnone]; simp, ?_⟩
      exact hrest.holds_of_not_mem hplainRest (hplain a (by simp)) hholds hlater
  | @failed s s₁ s' a rest written failed fault hwrite hrest ih =>
    obtain ⟨b, place, hlast, hholds⟩ := ih (fun b hb => hplain b (List.mem_cons_of_mem a hb)) hp
    exact ⟨b, place, by rw [List.findRev?, hlast], hholds⟩

end Run

end AccessLayer
