import AccessLayer.Proofs.Files.Tree
import Mathlib.Data.List.Count
import Mathlib.Data.List.Perm.Basic

namespace AccessLayer

namespace Tree

/-- The trees hold the same files and folders, hidden entries included. -/
structure Agrees (t t' : Tree) : Prop where
  workingFolder : t'.workingFolder = t.workingFolder
  get? : ∀ place, t'.get? place = t.get? place
  entries : t'.entries.Perm t.entries

/-- The entries at a place, the one that is seen there first. -/
def slot (t : Tree) (place : Place) : List (Place × Entry) :=
  t.entries.filter fun e => e.1 = place

/-- An entry that is set is the only one at its place, whatever the place listed before. -/
theorem slot_set_self (t : Tree) (place : Place) (e : Entry) :
    (t.set place e).slot place = [(place, e)] := by
  have hothers : ((t.entries.filter fun old => old.1 != place).filter fun old => old.1 = place) =
      [] := by
    rw [List.filter_filter, List.filter_eq_nil_iff]
    intro old _
    by_cases hplace : old.1 = place <;> simp [hplace]
  rw [slot, set, List.filter_cons_of_pos (by simp), hothers]

/-- Setting an entry leaves other places alone. -/
theorem slot_set_of_ne {t : Tree} {place other : Place} (e : Entry) (hne : other ≠ place) :
    (t.set place e).slot other = t.slot other := by
  rw [slot, set, List.filter_cons_of_neg (by simpa using hne.symm), List.filter_filter, slot]
  refine List.filter_congr fun old _ => ?_
  by_cases hother : old.1 = other
  · simp [hother, hne]
  · simp [hother]

/-- Setting an entry leaves at most one where there was at most one. -/
theorem length_slot_set {t : Tree} {place : Place} (hone : (t.slot place).length ≤ 1)
    (other : Place) (e : Entry) : ((t.set other e).slot place).length ≤ 1 := by
  by_cases hplace : place = other
  · rw [hplace, slot_set_self]
    exact Nat.le_refl 1
  · rw [slot_set_of_ne e hplace]
    exact hone

/-- Of the entries at a place the first is seen. The root is always seen as a folder. -/
theorem get?_eq_of_slot {t : Tree} {place : Place} (hne : place ≠ []) :
    t.get? place = (t.slot place).head?.map (·.2) := by
  rw [get?, if_neg (by simpa using hne), slot]
  induction t.entries with
  | nil => rfl
  | cons entry entries ih =>
    obtain ⟨here, e⟩ := entry
    by_cases hplace : here = place
    · rw [List.filter_cons_of_pos (by simpa using hplace), List.lookup_cons, hplace]
      simp
    · rw [List.filter_cons_of_neg (by simpa using hplace), List.lookup_cons, ← ih]
      have hbeq : (place == here) = false := by simpa using Ne.symm hplace
      rw [hbeq]

/-- A place with one entry holds what is seen there. -/
theorem slot_eq_of_get? {t : Tree} {place : Place} {e : Entry} (hne : place ≠ [])
    (hone : (t.slot place).length ≤ 1) (hplace : t.get? place = some e) :
    t.slot place = [(place, e)] := by
  rw [get?_eq_of_slot hne] at hplace
  match hslot : t.slot place with
  | [] =>
    rw [hslot] at hplace
    cases hplace
  | [(here, e')] =>
    rw [hslot] at hplace
    obtain rfl := Option.some.inj hplace
    have hmem : (here, e') ∈ t.slot place := by simp [hslot]
    obtain rfl : here = place := by simpa using (List.mem_filter.mp hmem).2
    rfl
  | _ :: _ :: _ =>
    rw [hslot] at hone
    simp at hone

/-- Trees with the same entries at every place agree. -/
theorem agrees_of_slot {t t' : Tree} (hfolder : t'.workingFolder = t.workingFolder)
    (hslot : ∀ place, t'.slot place = t.slot place) : Agrees t t' where
  workingFolder := hfolder
  get? place := by
    by_cases hne : place = []
    · rw [hne, get?_nil, get?_nil]
    · rw [get?_eq_of_slot hne, get?_eq_of_slot hne, hslot]
  entries := by
    classical
    refine List.perm_iff_count.mpr fun entry => ?_
    have hcount (tree : Tree) : tree.entries.count entry = (tree.slot entry.1).count entry :=
      (List.count_filter (by simp)).symm
    rw [hcount t, hcount t', hslot]

end Tree

end AccessLayer
