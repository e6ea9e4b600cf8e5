import AccessLayer.Proofs.Files.Tree
import AccessLayer.Proofs.Text.Words

namespace AccessLayer

namespace Tree

open Text

/-- The name can be given to an entry. -/
structure IsUsable (name : String) : Prop where
  ne_empty : name ≠ ""
  ne_dot : name ≠ "."
  ne_dots : name ≠ ".."
  short : name.utf8ByteSize ≤ maxNameLength

private theorem isUsable_iff {name : String} : IsUsable name ↔
    ¬ (name = "" ∨ name = "." ∨ name = "..") ∧ ¬ name.utf8ByteSize > maxNameLength := by
  simp only [not_or]
  constructor
  · intro h
    exact ⟨⟨h.ne_empty, h.ne_dot, h.ne_dots⟩, Nat.not_lt.mpr h.short⟩
  · rintro ⟨⟨hempty, hdot, hdots⟩, hshort⟩
    exact ⟨hempty, hdot, hdots, Nat.not_lt.mp hshort⟩

/-- The path names an entry of a folder of the tree, whether or not it is there. -/
def Names (t : Tree) (p : Path) (place : Place) : Prop :=
  ∃ above name, t.target p = .ok (above, name) ∧ IsUsable name ∧ place = above ++ [name]

/-- A path to an entry never names the root. -/
theorem Names.ne_nil {t : Tree} {p : Path} {place : Place} (h : t.Names p place) : place ≠ [] := by
  obtain ⟨above, name, _, _, rfl⟩ := h
  simp

/-- A path that names an entry is one that the system takes. -/
theorem Names.accept {t : Tree} {p : Path} {place : Place} (h : t.Names p place) :
    accept p = .ok () := by
  obtain ⟨above, name, htarget, _, _⟩ := h
  exact (target_eq_ok_iff.mp htarget).1

/-- A path that names an entry names it still when the tree has grown. -/
theorem Grows.names {t t' : Tree} (h : Grows t t') {p : Path} {place : Place}
    (hnames : t.Names p place) : t'.Names p place := by
  obtain ⟨above, name, htarget, husable, rfl⟩ := hnames
  exact ⟨above, name, h.target htarget, husable, rfl⟩

private theorem names_ne_nil (p : Path) : names p ≠ [] := by
  simp [names, pieces_ne_nil]

/-- The names of a path are those above its last and the last. -/
theorem names_eq_dropLast_append (p : Path) :
    names p = (names p).dropLast ++ [(names p).getLast?.getD ""] := by
  have hlast := List.getLast?_eq_getLast_of_ne_nil (names_ne_nil p)
  rw [hlast, Option.getD_some, List.dropLast_append_getLast]

/-- What stands at the place that a path names is what the path leads to. -/
theorem Names.resolve {t : Tree} {p : Path} {place : Place} {e : Entry} (h : t.Names p place)
    (hplace : t.get? place = some e) : t.resolve p = .ok (place, e) := by
  obtain ⟨above, name, htarget, husable, rfl⟩ := h
  obtain ⟨haccept, hwalk, hfolder, hname⟩ := target_eq_ok_iff.mp htarget
  refine resolve_eq_ok_iff.mpr ⟨haccept, ?_, hplace⟩
  rw [names_eq_dropLast_append, walk_append, hwalk, hname]
  change t.walk above [name] = _
  rw [walk_cons_name ⟨husable.ne_empty, husable.ne_dot, husable.ne_dots⟩ hfolder husable.short]
  rfl

/-- A file is written exactly where a path names an entry that is no folder. -/
theorem writeBytes_eq_ok_iff {t t' : Tree} {p : Path} {bytes : ByteArray} :
    t.writeBytes p bytes = .ok t' ↔ ∃ place, t.Names p place ∧ t.get? place ≠ some .folder ∧
      t' = t.set place (.file bytes) := by
  unfold writeBytes
  cases htarget : t.target p with
  | error fault =>
    simp only [bind, Except.bind, reduceCtorEq, false_iff]
    rintro ⟨place, ⟨above, name, hfound, _⟩, _⟩
    rw [htarget] at hfound
    cases hfound
  | ok found =>
    obtain ⟨above, name⟩ := found
    simp only [bind, Except.bind]
    have hnames {place : Place} (h : t.Names p place) : IsUsable name ∧ place = above ++ [name] := by
      obtain ⟨above', name', hfound, husable, rfl⟩ := h
      obtain ⟨rfl, rfl⟩ := Prod.mk.inj (Except.ok.inj (htarget.symm.trans hfound))
      exact ⟨husable, rfl⟩
    by_cases husable : IsUsable name
    · obtain ⟨hspecial, hshort⟩ := isUsable_iff.mp husable
      rw [if_neg hspecial, if_neg hshort]
      split
      · rename_i hfolder
        simp only [reduceCtorEq, false_iff]
        rintro ⟨place, hplace, hno, _⟩
        obtain ⟨_, rfl⟩ := hnames hplace
        exact hno hfolder
      · rename_i hfolder
        simp only [Except.ok.injEq]
        constructor
        · rintro rfl
          exact ⟨_, ⟨above, name, htarget, husable, rfl⟩, hfolder, rfl⟩
        · rintro ⟨place, hplace, _, rfl⟩
          obtain ⟨_, rfl⟩ := hnames hplace
          rfl
    · constructor
      · intro h
        split at h
        · cases h
        · rename_i hspecial
          split at h
          · cases h
          · rename_i hshort
            exact absurd (isUsable_iff.mpr ⟨hspecial, hshort⟩) husable
      · rintro ⟨place, hplace, _⟩
        exact absurd (hnames hplace).1 husable

/-- Slashes at the end of a path add empty names and nothing else. -/
theorem names_withoutEndSlashes (p : Path) :
    ∃ n, names p = names (withoutEndSlashes p) ++ List.replicate n "" := by
  unfold withoutEndSlashes
  split
  · exact ⟨0, by simp⟩
  · obtain ⟨tail, htail, hsplit⟩ := exists_dropped_end (· == '/') p.text.toList
    refine ⟨tail.length, ?_⟩
    rw [names, hsplit, pieces_append_separators htail, List.map_append, List.map_replicate, names,
      String.toList_ofList, ← hsplit]

/-- What can be read is the text of a file. -/
theorem readText_eq_ok_iff {t : Tree} {p : Path} {text : String} :
    t.readText p = .ok text ↔
      ∃ place bytes, t.resolve p = .ok (place, .file bytes) ∧ String.fromUTF8? bytes = some text := by
  unfold readText readBytes
  cases hresolve : t.resolve p with
  | error fault => simp [bind, Except.bind]
  | ok found =>
    obtain ⟨place, entry⟩ := found
    cases entry with
    | folder => simp [bind, Except.bind]
    | file bytes =>
      simp only [bind, Except.bind]
      cases htext : String.fromUTF8? bytes with
      | none =>
        simp only [reduceCtorEq, false_iff, Except.ok.injEq, Prod.mk.injEq, Entry.file.injEq]
        rintro ⟨_, _, ⟨rfl, rfl⟩, hsome⟩
        rw [htext] at hsome
        cases hsome
      | some found =>
        simp only [Except.ok.injEq, Prod.mk.injEq, Entry.file.injEq]
        constructor
        · rintro rfl
          exact ⟨place, bytes, ⟨rfl, rfl⟩, htext⟩
        · rintro ⟨_, _, ⟨rfl, rfl⟩, hsome⟩
          exact Option.some.inj (htext.symm.trans hsome)

/-- The system takes a path that is neither empty nor too long and holds no end. -/
theorem accept_eq_ok_iff {p : Path} : accept p = .ok () ↔
    Char.ofNat 0 ∉ p.text.toList ∧ p.text ≠ "" ∧ p.text.utf8ByteSize ≤ maxPathLength := by
  unfold accept
  by_cases hend : p.text.toList.contains (Char.ofNat 0)
  · rw [if_pos hend]
    simp only [reduceCtorEq, false_iff]
    rintro ⟨hno, _⟩
    exact hno (by simpa using hend)
  · rw [if_neg hend]
    have hno : Char.ofNat 0 ∉ p.text.toList := by simpa using hend
    by_cases hempty : p.text.isEmpty
    · rw [if_pos hempty]
      simp only [reduceCtorEq, false_iff]
      rintro ⟨_, hne, _⟩
      exact hne (by simpa using hempty)
    · rw [if_neg hempty]
      have hne : p.text ≠ "" := by simpa using hempty
      by_cases hlong : p.text.utf8ByteSize > maxPathLength
      · rw [if_pos hlong]
        simp only [reduceCtorEq, false_iff]
        rintro ⟨_, _, hshort⟩
        omega
      · rw [if_neg hlong]
        simp only [true_iff]
        exact ⟨hno, hne, by omega⟩

/-- The system takes a path without its last slashes whenever it takes the path. -/
theorem accept_withoutEndSlashes {p : Path} (h : accept p = .ok ()) :
    accept (withoutEndSlashes p) = .ok () := by
  unfold withoutEndSlashes
  split
  · exact h
  · rename_i kept hkept
    obtain ⟨hend, hne, hshort⟩ := accept_eq_ok_iff.mp h
    obtain ⟨tail, _, hsplit⟩ := exists_dropped_end (· == '/') p.text.toList
    have htext : p.text = String.ofList (dropEnd (· == '/') p.text.toList) ++ String.ofList tail := by
      rw [← String.toList_inj, String.toList_append, String.toList_ofList, String.toList_ofList]
      exact hsplit
    refine accept_eq_ok_iff.mpr ⟨?_, ?_, ?_⟩
    · rw [String.toList_ofList]
      intro hmem
      exact hend (hsplit ▸ List.mem_append_left _ hmem)
    · intro hempty
      have hnil := congrArg String.toList hempty
      rw [String.toList_ofList] at hnil
      exact hkept hnil
    · have hsize := congrArg String.utf8ByteSize htext
      rw [String.utf8ByteSize_append] at hsize
      simp only
      omega

/-- Slashes at the end make no difference to where a path starts, as one of them is left where
    nothing else is. -/
theorem start_withoutEndSlashes (t : Tree) (p : Path) : t.start (withoutEndSlashes p) = t.start p := by
  have habsolute : (withoutEndSlashes p).isAbsolute = p.isAbsolute := by
    unfold withoutEndSlashes
    split
    · rfl
    · rename_i kept hkept
      obtain ⟨tail, _, hsplit⟩ := exists_dropped_end (· == '/') p.text.toList
      have hne : dropEnd (· == '/') p.text.toList ≠ [] := hkept
      rw [Path.isAbsolute, Path.isAbsolute, String.toList_ofList]
      conv_rhs => rw [hsplit]
      rw [List.head?_append_of_ne_nil _ hne]
  rw [start, start, habsolute]

/-- Where a path leads in the tree, whatever stands there. -/
def placeOf? (t : Tree) (p : Path) : Option Place := (t.walk (t.start p) (names p)).toOption

/-- The place of a path is where its walk ends, whether the system takes the path or not. -/
theorem placeOf?_eq_some_iff {t : Tree} {p : Path} {place : Place} :
    t.placeOf? p = some place ↔ t.walk (t.start p) (names p) = .ok place := by
  unfold placeOf?
  cases t.walk (t.start p) (names p) <;> simp [Except.toOption]

/-- A path that leads to an entry has the entry's place. -/
theorem placeOf?_of_resolve {t : Tree} {p : Path} {place : Place} {e : Entry}
    (h : t.resolve p = .ok (place, e)) : t.placeOf? p = some place :=
  placeOf?_eq_some_iff.mpr (resolve_eq_ok_iff.mp h).2.1

/-- Places stay where they are while a tree grows. -/
theorem Grows.placeOf? {t t' : Tree} (h : Grows t t') {p : Path} {place : Place}
    (hplace : t.placeOf? p = some place) : t'.placeOf? p = some place := by
  rw [placeOf?_eq_some_iff] at hplace ⊢
  rw [h.start]
  exact h.walk hplace

private theorem walk_replicate_empty {t : Tree} {place : Place}
    (hplace : t.get? place = some .folder) (n : Nat) :
    t.walk place (List.replicate n "") = .ok place := by
  induction n with
  | zero => rfl
  | succ n ih => rw [List.replicate_succ, walk_cons_stay (Or.inl rfl) hplace, ih]

private theorem eq_of_walk_replicate_empty {t : Tree} {place end_ : Place} {n : Nat}
    (h : t.walk place (List.replicate n "") = .ok end_) : end_ = place := by
  induction n with
  | zero => exact (Except.ok.inj h).symm
  | succ n ih =>
    rw [List.replicate_succ] at h
    rcases (walk_cons_eq_ok h).2 with ⟨_, hrest⟩ | ⟨hdots, _⟩ | ⟨hname, _⟩
    · exact ih hrest
    · exact absurd hdots (by decide)
    · exact absurd rfl hname.1

/-- A folder that is made stands where its path leads, and nothing stood there before. -/
theorem makeFolder_eq_ok {t t' : Tree} {p : Path} (h : t.makeFolder p = .ok t') :
    ∃ place, place ≠ [] ∧ t.get? place = none ∧ t' = t.set place .folder ∧
      t'.placeOf? p = some place := by
  unfold makeFolder at h
  cases htarget : t.target (withoutEndSlashes p) with
  | error fault =>
    rw [htarget] at h
    cases h
  | ok found =>
    obtain ⟨above, name⟩ := found
    rw [htarget] at h
    simp only [bind, Except.bind] at h
    split at h
    · cases h
    · rename_i hspecial
      split at h
      · cases h
      · rename_i hshort
        split at h
        · cases h
        · rename_i hfree
          obtain rfl := Except.ok.inj h
          have hnone : t.get? (above ++ [name]) = none := by simpa using hfree
          have hne : above ++ [name] ≠ [] := by simp
          have hgrows := grows_set_folder hne hnone
          have hmade : (t.set (above ++ [name]) .folder).get? (above ++ [name]) = some .folder := by
            rw [get?_set _ hne, if_pos rfl]
          have hnames :=
            hgrows.names ⟨above, name, htarget, isUsable_iff.mpr ⟨hspecial, hshort⟩, rfl⟩
          have hwalk := (resolve_eq_ok_iff.mp (hnames.resolve hmade)).2.1
          obtain ⟨n, hslashes⟩ := names_withoutEndSlashes p
          refine ⟨above ++ [name], hne, hnone, rfl, placeOf?_eq_some_iff.mpr ?_⟩
          rw [hslashes, walk_append, ← start_withoutEndSlashes, hwalk]
          exact walk_replicate_empty hmade n

/-- A path shows a folder exactly where it leads to one. -/
theorem entry?_eq_folder_iff {t : Tree} {p : Path} :
    t.entry? p = some .folder ↔ ∃ place, t.resolve p = .ok (place, .folder) := by
  unfold entry?
  split
  · rename_i hfile
    simp [hfile]
  · rename_i hfolder
    simp [hfolder]
  · rename_i hfault
    simp [hfault]

/-- Where a path leads to a folder, none is made again. -/
theorem makeFolder_of_folder {t : Tree} {p : Path} {place : Place}
    (h : t.resolve p = .ok (place, .folder)) : t.makeFolder p = .error .alreadyExists := by
  obtain ⟨haccept, hwalk, hfolder⟩ := resolve_eq_ok_iff.mp h
  obtain ⟨n, hslashes⟩ := names_withoutEndSlashes p
  rw [hslashes] at hwalk
  obtain ⟨reached, hreached, hrest⟩ := walk_append_eq_ok hwalk
  have hplace := eq_of_walk_replicate_empty hrest
  rw [names_eq_dropLast_append] at hreached
  obtain ⟨above, habove, hlast⟩ := walk_append_eq_ok hreached
  obtain ⟨hentered, hstep⟩ := walk_cons_eq_ok hlast
  have htarget : t.target (withoutEndSlashes p) =
      .ok (above, (names (withoutEndSlashes p)).getLast?.getD "") :=
    target_eq_ok_iff.mpr
      ⟨accept_withoutEndSlashes haccept, by rw [start_withoutEndSlashes]; exact habove, hentered, rfl⟩
  unfold makeFolder
  rw [htarget]
  generalize (names (withoutEndSlashes p)).getLast?.getD "" = last at hstep
  simp only [bind, Except.bind]
  rcases hstep with ⟨hstay, _⟩ | ⟨hdots, _⟩ | ⟨hname, hshort, hend⟩
  · rcases hstay with hempty | hdot
    · rw [if_pos (Or.inl hempty)]
    · rw [if_pos (Or.inr (Or.inl hdot))]
  · rw [if_pos (Or.inr (Or.inr hdots))]
  · rw [walk] at hend
    have hmade : above ++ [last] = place := (Except.ok.inj hend).trans hplace.symm
    have hthere : (t.get? (above ++ [last])).isSome := by
      rw [hmade, hfolder]
      rfl
    have hspecial : ¬ (last = "" ∨ last = "." ∨ last = "..") := by
      rintro (hempty | hdot | hdots)
      · exact hname.1 hempty
      · exact hname.2.1 hdot
      · exact hname.2.2 hdots
    rw [if_neg hspecial, if_neg (Nat.not_lt.mpr hshort), if_pos hthere]

end Tree

end AccessLayer
