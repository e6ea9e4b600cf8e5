import AccessLayer.Files.Tree
import Mathlib.Tactic.Common

namespace AccessLayer

namespace Tree

/-- The root is always a folder. -/
theorem get?_nil (t : Tree) : t.get? [] = some .folder := rfl

/-- What stands at a place after an entry was set. The root cannot be set. -/
theorem get?_set {t : Tree} {place : Place} (e : Entry) (hne : place ≠ []) (other : Place) :
    (t.set place e).get? other = if other = place then some e else t.get? other := by
  cases other with
  | nil => rw [if_neg (Ne.symm hne), get?_nil, get?_nil]
  | cons name names =>
    simp only [get?, set, List.isEmpty_cons, Bool.false_eq_true, if_false, List.lookup_cons]
    by_cases hplace : name :: names = place
    · simp [hplace]
    · have hbeq : (name :: names == place) = false := by simpa using hplace
      rw [hbeq, if_neg hplace]
      simp only
      induction t.entries with
      | nil => rfl
      | cons entry entries ih =>
        rw [List.filter_cons]
        split
        · rw [List.lookup_cons, List.lookup_cons, ih]
        · rename_i hdropped
          have hsame : entry.1 = place := by simpa using hdropped
          have hother : (name :: names == entry.1) = false := by
            rw [hsame]
            exact hbeq
          rw [ih, List.lookup_cons, hother]

/-- Nothing that stood in the first tree is gone or has become something else in the second. -/
structure Grows (t t' : Tree) : Prop where
  workingFolder : t'.workingFolder = t.workingFolder
  folder : ∀ place, t.get? place = some .folder → t'.get? place = some .folder
  file : ∀ place bytes, t.get? place = some (.file bytes) →
    ∃ bytes', t'.get? place = some (.file bytes')

/-- A tree that stays as it is has not lost anything. -/
theorem Grows.refl (t : Tree) : Grows t t := ⟨rfl, fun _ h => h, fun _ bytes h => ⟨bytes, h⟩⟩

/-- What stays through two changes stays through both. -/
theorem Grows.trans {t t' t'' : Tree} (h : Grows t t') (h' : Grows t' t'') : Grows t t'' where
  workingFolder := h'.workingFolder.trans h.workingFolder
  folder place hfolder := h'.folder place (h.folder place hfolder)
  file place bytes hfile := by
    obtain ⟨bytes', hfile'⟩ := h.file place bytes hfile
    exact h'.file place bytes' hfile'

/-- A folder that is set where nothing stood takes nothing away. -/
theorem grows_set_folder {t : Tree} {place : Place} (hne : place ≠ [])
    (hfree : t.get? place = none) : Grows t (t.set place .folder) where
  workingFolder := rfl
  folder other hother := by
    rw [get?_set _ hne]
    split
    · rfl
    · exact hother
  file other bytes hother := by
    refine ⟨bytes, ?_⟩
    rw [get?_set _ hne, if_neg]
    · exact hother
    · rintro rfl
      rw [hfree] at hother
      cases hother

/-- A file that is set where no folder stood takes nothing away but its former contents. -/
theorem grows_set_file {t : Tree} {place : Place} (hne : place ≠ [])
    (hplace : t.get? place ≠ some .folder) (bytes : ByteArray) :
    Grows t (t.set place (.file bytes)) where
  workingFolder := rfl
  folder other hother := by
    rw [get?_set _ hne, if_neg]
    · exact hother
    · rintro rfl
      exact hplace hother
  file other old hother := by
    rw [get?_set _ hne]
    split
    · exact ⟨bytes, rfl⟩
    · exact ⟨old, hother⟩

private theorem enter_eq_ok_iff {t : Tree} {place : Place} :
    t.enter place = .ok () ↔ t.get? place = some .folder := by
  unfold enter
  split
  · rename_i h
    simp [h]
  · rename_i h
    simp [h]
  · rename_i h
    simp [h]

/-- How a walk takes its first step: it stays, goes back, or goes on by a name that is not too long,
    and always from a folder. -/
theorem walk_cons_eq_ok {t : Tree} {place end_ : Place} {name : String} {names : List String}
    (h : t.walk place (name :: names) = .ok end_) :
    t.get? place = some .folder ∧
      ((name = "" ∨ name = ".") ∧ t.walk place names = .ok end_ ∨
        name = ".." ∧ t.walk place.dropLast names = .ok end_ ∨
        (name ≠ "" ∧ name ≠ "." ∧ name ≠ "..") ∧ name.utf8ByteSize ≤ maxNameLength ∧
          t.walk (place ++ [name]) names = .ok end_) := by
  rw [walk] at h
  cases henter : t.enter place with
  | error fault => simp [henter] at h
  | ok entered =>
    simp only [henter] at h
    refine ⟨enter_eq_ok_iff.mp henter, ?_⟩
    by_cases hstay : name = "" ∨ name = "."
    · rw [if_pos hstay] at h
      exact Or.inl ⟨hstay, h⟩
    · rw [if_neg hstay] at h
      rw [not_or] at hstay
      by_cases hup : name = ".."
      · rw [if_pos hup] at h
        exact Or.inr (Or.inl ⟨hup, h⟩)
      · rw [if_neg hup] at h
        by_cases hlong : name.utf8ByteSize > maxNameLength
        · rw [if_pos hlong] at h
          cases h
        · rw [if_neg hlong] at h
          exact Or.inr (Or.inr ⟨⟨hstay.1, hstay.2, hup⟩, Nat.not_lt.mp hlong, h⟩)

/-- A step into a name that is neither empty nor dots. -/
theorem walk_cons_name {t : Tree} {place : Place} {name : String}
    (hname : name ≠ "" ∧ name ≠ "." ∧ name ≠ "..") (hplace : t.get? place = some .folder)
    (hshort : name.utf8ByteSize ≤ maxNameLength) (names : List String) :
    t.walk place (name :: names) = t.walk (place ++ [name]) names := by
  rw [walk, enter_eq_ok_iff.mpr hplace]
  simp only
  rw [if_neg (by simp [hname]), if_neg hname.2.2, if_neg (Nat.not_lt.mpr hshort)]

/-- An empty name or a single dot is a step on the spot. -/
theorem walk_cons_stay {t : Tree} {place : Place} {name : String} (hname : name = "" ∨ name = ".")
    (hplace : t.get? place = some .folder) (names : List String) :
    t.walk place (name :: names) = t.walk place names := by
  rw [walk, enter_eq_ok_iff.mpr hplace]
  simp only
  rw [if_pos hname]

/-- A walk goes on from where its first part ends, and fails where that fails. -/
theorem walk_append (t : Tree) (place : Place) (names more : List String) :
    t.walk place (names ++ more) = (t.walk place names).bind fun reached => t.walk reached more := by
  induction names generalizing place with
  | nil => rfl
  | cons name names ih =>
    rw [List.cons_append, walk, walk]
    cases t.enter place with
    | error fault => rfl
    | ok entered =>
      simp only
      split
      · exact ih place
      · split
        · exact ih place.dropLast
        · split
          · rfl
          · exact ih (place ++ [name])

/-- A walk that goes on has first come somewhere. -/
theorem walk_append_eq_ok {t : Tree} {place end_ : Place} {names more : List String}
    (h : t.walk place (names ++ more) = .ok end_) :
    ∃ reached, t.walk place names = .ok reached ∧ t.walk reached more = .ok end_ := by
  rw [walk_append] at h
  cases hfirst : t.walk place names with
  | error fault =>
    rw [hfirst] at h
    cases h
  | ok reached =>
    rw [hfirst] at h
    exact ⟨reached, rfl, h⟩

/-- Whatever a walk leads to in a tree, it still leads there when the tree has grown. -/
theorem Grows.walk {t t' : Tree} (h : Grows t t') {place end_ : Place} {names : List String}
    (hwalk : t.walk place names = .ok end_) : t'.walk place names = .ok end_ := by
  induction names generalizing place with
  | nil => exact hwalk
  | cons name names ih =>
    have hfolder := (walk_cons_eq_ok hwalk).1
    rw [Tree.walk] at hwalk ⊢
    rw [enter_eq_ok_iff.mpr hfolder] at hwalk
    rw [enter_eq_ok_iff.mpr (h.folder place hfolder)]
    simp only at hwalk ⊢
    split at hwalk
    · rw [if_pos ‹_›]
      exact ih hwalk
    · rw [if_neg ‹_›]
      split at hwalk
      · rw [if_pos ‹_›]
        exact ih hwalk
      · rw [if_neg ‹_›]
        split at hwalk
        · cases hwalk
        · rw [if_neg ‹_›]
          exact ih hwalk

/-- Paths start where they did. -/
theorem Grows.start {t t' : Tree} (h : Grows t t') (p : Path) : t'.start p = t.start p := by
  rw [Tree.start, Tree.start, h.workingFolder]

/-- A path leads to an entry if the system takes it, its walk comes through and the entry stands at
    the end. -/
theorem resolve_eq_ok_iff {t : Tree} {p : Path} {place : Place} {e : Entry} :
    t.resolve p = .ok (place, e) ↔
      accept p = .ok () ∧ t.walk (t.start p) (names p) = .ok place ∧ t.get? place = some e := by
  unfold resolve
  cases haccept : accept p with
  | error fault => simp [bind, Except.bind]
  | ok accepted =>
    cases hwalk : t.walk (t.start p) (names p) with
    | error fault => simp [bind, Except.bind]
    | ok reached =>
      simp only [bind, Except.bind]
      cases hentry : t.get? reached with
      | none =>
        simp only [reduceCtorEq, false_iff, Except.ok.injEq, true_and]
        rintro ⟨rfl, hsome⟩
        rw [hentry] at hsome
        cases hsome
      | some found =>
        simp only [Except.ok.injEq, Prod.mk.injEq, true_and]
        constructor
        · rintro ⟨rfl, rfl⟩
          exact ⟨rfl, hentry⟩
        · rintro ⟨rfl, hsame⟩
          rw [hentry] at hsame
          exact ⟨rfl, Option.some.inj hsame⟩

/-- An entry can be made if its path leads up to a folder. Nothing is said of the name, which may be
    empty or dots. -/
theorem target_eq_ok_iff {t : Tree} {p : Path} {above : Place} {name : String} :
    t.target p = .ok (above, name) ↔
      accept p = .ok () ∧ t.walk (t.start p) (names p).dropLast = .ok above ∧
        t.get? above = some .folder ∧ (names p).getLast?.getD "" = name := by
  unfold target
  cases haccept : accept p with
  | error fault => simp [bind, Except.bind]
  | ok accepted =>
    cases hwalk : t.walk (t.start p) (names p).dropLast with
    | error fault => simp [bind, Except.bind]
    | ok reached =>
      simp only [bind, Except.bind]
      cases henter : t.enter reached with
      | error fault =>
        have hno : t.get? reached ≠ some .folder := by
          intro hfolder
          rw [enter_eq_ok_iff.mpr hfolder] at henter
          cases henter
        simp only [reduceCtorEq, false_iff, Except.ok.injEq, true_and]
        rintro ⟨rfl, hfolder, _⟩
        exact hno hfolder
      | ok entered =>
        simp only [Except.ok.injEq, Prod.mk.injEq, true_and]
        constructor
        · rintro ⟨rfl, rfl⟩
          exact ⟨rfl, enter_eq_ok_iff.mp henter, rfl⟩
        · rintro ⟨rfl, _, rfl⟩
          exact ⟨rfl, rfl⟩

/-- A path to a folder still leads to it when the tree has grown. -/
theorem Grows.resolve_folder {t t' : Tree} (h : Grows t t') {p : Path} {place : Place}
    (hresolve : t.resolve p = .ok (place, .folder)) : t'.resolve p = .ok (place, .folder) := by
  obtain ⟨haccept, hwalk, hfolder⟩ := resolve_eq_ok_iff.mp hresolve
  refine resolve_eq_ok_iff.mpr ⟨haccept, ?_, h.folder place hfolder⟩
  rw [h.start]
  exact h.walk hwalk

/-- Where an entry can be made, it still can when the tree has grown. -/
theorem Grows.target {t t' : Tree} (h : Grows t t') {p : Path} {above : Place} {name : String}
    (htarget : t.target p = .ok (above, name)) : t'.target p = .ok (above, name) := by
  obtain ⟨haccept, hwalk, hfolder, hname⟩ := target_eq_ok_iff.mp htarget
  refine target_eq_ok_iff.mpr ⟨haccept, ?_, h.folder above hfolder, hname⟩
  rw [h.start]
  exact h.walk hwalk

end Tree

end AccessLayer
