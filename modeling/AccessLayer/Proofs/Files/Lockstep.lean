import AccessLayer.Proofs.Files.Effect
import AccessLayer.Proofs.Files.Way

namespace AccessLayer

namespace Tree

/-- The tree with some entries set, one after the other. -/
def changed (t : Tree) (changes : List (Place × Entry)) : Tree :=
  changes.foldl (fun t change => t.set change.1 change.2) t

/-- Changes are made one after the other. -/
theorem changed_append (t : Tree) (changes more : List (Place × Entry)) :
    t.changed (changes ++ more) = (t.changed changes).changed more :=
  List.foldl_append

private theorem get?_set_of_ne (t : Tree) {place other : Place} (e : Entry) (hne : other ≠ place) :
    (t.set place e).get? other = t.get? other := by
  by_cases hroot : other = []
  · rw [hroot, get?_nil, get?_nil]
  · rw [get?_eq_of_slot hroot, get?_eq_of_slot hroot, slot_set_of_ne e hne]

private theorem get?_set_self (t t' : Tree) (place : Place) (e : Entry) :
    (t'.set place e).get? place = (t.set place e).get? place := by
  by_cases hroot : place = []
  · rw [hroot, get?_nil, get?_nil]
  · rw [get?_eq_of_slot hroot, get?_eq_of_slot hroot, slot_set_self, slot_set_self]

private theorem get?_changed_of_not_mem {t : Tree} {changes : List (Place × Entry)} {place : Place}
    (h : place ∉ changes.map (·.1)) : (t.changed changes).get? place = t.get? place := by
  induction changes generalizing t with
  | nil => rfl
  | cons change changes ih =>
    obtain ⟨hne, hrest⟩ := not_or.mp (List.mem_cons.not.mp h)
    exact (ih hrest).trans (get?_set_of_ne t change.2 hne)

/-- Where trees are changed alike, they hold the same. -/
theorem get?_changed_of_mem (t t' : Tree) {changes : List (Place × Entry)} {place : Place}
    (h : place ∈ changes.map (·.1)) :
    (t'.changed changes).get? place = (t.changed changes).get? place := by
  induction changes generalizing t t' with
  | nil => cases h
  | cons change changes ih =>
    by_cases hlater : place ∈ changes.map (·.1)
    · exact ih _ _ hlater
    · obtain rfl : place = change.1 := by simpa [hlater] using List.mem_cons.mp h
      have hlast (tree : Tree) : (tree.changed (change :: changes)).get? change.1 =
          (tree.set change.1 change.2).get? change.1 := get?_changed_of_not_mem hlater
      rw [hlast, hlast, get?_set_self]

end Tree

namespace Sandbox

open AccessLayer.Tree

/-- In trees that are related the action gives the same, makes the same changes and leaves them
    related. The flag is as it was. -/
def InStep {α : Type} (R : Tree → Tree → Prop) (x : StateM Sandbox α) : Prop :=
  ∀ t t' flag, R t t' → ∃ a changes, x ⟨t, flag⟩ = (a, ⟨t.changed changes, flag⟩) ∧
    x ⟨t', flag⟩ = (a, ⟨t'.changed changes, flag⟩) ∧ R (t.changed changes) (t'.changed changes)

variable {R : Tree → Tree → Prop} {α β : Type}

/-- An action that does nothing keeps step in any trees. -/
theorem InStep.pure (R : Tree → Tree → Prop) (a : α) :
    InStep R (Pure.pure a : StateM Sandbox α) :=
  fun _ _ _ halike => ⟨a, [], rfl, rfl, halike⟩

/-- Actions keep step one after the other, if the second does whatever the first comes to. -/
theorem InStep.bind {x : StateM Sandbox α} {f : α → StateM Sandbox β} (hx : InStep R x)
    (hf : ∀ a, InStep R (f a)) : InStep R (x >>= f) := by
  intro t t' flag halike
  obtain ⟨a, changes, hfirst, hfirst', hbetween⟩ := hx t t' flag halike
  obtain ⟨b, more, hsecond, hsecond', hafter⟩ := hf a _ _ flag hbetween
  refine ⟨b, changes ++ more, ?_, ?_, ?_⟩
  · rw [bind_apply hfirst, hsecond, changed_append]
  · rw [bind_apply hfirst', hsecond', changed_append]
  · rw [changed_append, changed_append]
    exact hafter

/-- What a related tree looks like decides an action that only looks. -/
theorem InStep.look (look : Tree → α) (h : ∀ t t', R t t' → look t' = look t) :
    InStep R fun s => (look s.tree, s) := by
  intro t t' flag halike
  refine ⟨look t, [], rfl, ?_, halike⟩
  rw [← h t t' halike]
  rfl

/-- An attempt keeps step if it changes related trees alike, and what it sets leaves them related. -/
theorem InStep.attempt {op : Tree → Except FileFault Tree}
    (hset : ∀ t t' place e, place ≠ [] → R t t' → R (t.set place e) (t'.set place e))
    (hop : ∀ t t', R t t' → ChangedAlike t t' (op t) (op t')) : InStep R (Sandbox.attempt op) := by
  intro t t' flag halike
  have hchanged := hop t t' halike
  unfold Sandbox.attempt
  generalize op t = made at hchanged
  generalize op t' = made' at hchanged
  cases hchanged with
  | fails fault => exact ⟨.error fault, [], rfl, rfl, halike⟩
  | @sets place e hne => exact ⟨.ok (), [(place, e)], rfl, rfl, hset t t' place e hne halike⟩

/-- The trees are alike for whoever approaches one of the paths. -/
def AlikeFor (paths : List Path) (t t' : Tree) : Prop := ∀ p ∈ paths, ApproachedAlike t t' p

variable {paths : List Path} {p : Path}

private theorem AlikeFor.set (t t' : Tree) (place : Place) (e : Entry) (hne : place ≠ [])
    (h : AlikeFor paths t t') : AlikeFor paths (t.set place e) (t'.set place e) :=
  fun p hp => (h p hp).set e hne

private theorem AlikeFor.enteredAlike {t t' : Tree} {q : Path} (h : AlikeFor paths t t')
    (hp : p ∈ paths) (hq : q ∈ p.above) : EnteredAlike t t' q := by
  obtain ⟨hthrough, hne⟩ := Path.goesThrough_of_mem_above hq
  exact (h p hp).enteredAlike hthrough hne

private theorem inStep_makeFolder {q : Path} (hp : p ∈ paths) (hq : q ∈ p.above) :
    InStep (AlikeFor paths) (host.makeFolder q) := by
  simp only [host]
  exact InStep.attempt AlikeFor.set fun t t' h => (h.enteredAlike hp hq).makeFolder

private theorem inStep_settle {q : Path} (hp : p ∈ paths) (hq : q ∈ p.above)
    (made : Except FileFault Unit) : InStep (AlikeFor paths) (host.settle q made) := by
  unfold Host.settle
  split
  · have hlook : InStep (AlikeFor paths) (host.entry? q) :=
      InStep.look (fun t => t.entry? q) fun t t' h => EnteredAlike.entry? (h.enteredAlike hp hq)
    exact hlook.bind fun found => InStep.pure _ _
  · exact InStep.pure _ made

/-- The folders above one of the paths are made in step. -/
theorem inStep_makeFolders (hp : p ∈ paths) {qs : List Path} (hqs : qs ⊆ p.above) :
    InStep (AlikeFor paths) (host.makeFolders qs) := by
  induction qs with
  | nil => exact InStep.pure _ _
  | cons q above ih =>
    obtain ⟨hq, habove⟩ := List.cons_subset.mp hqs
    unfold Host.makeFolders
    refine (inStep_makeFolder hp hq).bind fun first => ?_
    split
    · refine (ih habove).bind fun rest => ?_
      split
      · exact InStep.pure _ _
      · exact (inStep_makeFolder hp hq).bind fun second => inStep_settle hp hq second
    · exact inStep_settle hp hq first

/-- A file is written below its folders in step. -/
theorem inStep_writeBelow (hp : p ∈ paths) (contents : String) :
    InStep (AlikeFor paths) (host.writeBelow p contents) := by
  unfold Host.writeBelow
  refine (inStep_makeFolders hp (List.Subset.refl p.above)).bind fun made => ?_
  split
  · exact InStep.pure _ _
  · simp only [host]
    exact InStep.attempt AlikeFor.set fun t t' h => (h p hp).writeBytes contents.toUTF8

end Sandbox

end AccessLayer
