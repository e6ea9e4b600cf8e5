import AccessLayer.Proofs.Files.Join

namespace AccessLayer

/-- The kind of an entry, whatever a file holds. -/
def Entry.kind : Entry → EntryKind
  | file _ => .file
  | folder => .folder

namespace Tree

/-- The kind of what stands at a place. A walk looks at nothing else. -/
def kindAt? (t : Tree) (place : Place) : Option EntryKind := (t.get? place).map Entry.kind

private theorem kindAt?_eq_folder_iff {t : Tree} {place : Place} :
    t.kindAt? place = some .folder ↔ t.get? place = some .folder := by
  unfold kindAt?
  cases t.get? place with
  | none => simp
  | some e => cases e <;> simp [Entry.kind]

private theorem kindAt?_set {t : Tree} {place : Place} (e : Entry) (hne : place ≠ [])
    (other : Place) :
    (t.set place e).kindAt? other = if other = place then some e.kind else t.kindAt? other := by
  rw [kindAt?, get?_set e hne]
  split <;> rfl

/-- Where the step by a name leads. -/
def step (place : Place) (name : String) : Place :=
  if name = "" ∨ name = "." then place
  else if name = ".." then place.dropLast
  else place ++ [name]

/-- The places from which the steps by some names are taken. -/
def stations (place : Place) : List String → List Place
  | [] => []
  | name :: names => place :: stations (step place name) names

/-- Where all the steps lead. -/
def goal (place : Place) (names : List String) : Place := names.foldl step place

private theorem goal_append (place : Place) (names more : List String) :
    goal place (names ++ more) = goal (goal place names) more :=
  List.foldl_append

private theorem stations_append (place : Place) (names more : List String) :
    stations place (names ++ more) = stations place names ++ stations (goal place names) more := by
  induction names generalizing place with
  | nil => rfl
  | cons name names ih => exact congrArg (place :: ·) (ih (step place name))

private theorem goal_replicate_empty (place : Place) (n : Nat) :
    goal place (List.replicate n "") = place := by
  induction n with
  | zero => rfl
  | succ n ih => exact ih

/-- The goal is a station as soon as one more step is taken. -/
theorem goal_mem_stations (place : Place) (names : List String) {more : List String}
    (hmore : more ≠ []) : goal place names ∈ stations place (names ++ more) := by
  cases more with
  | nil => exact absurd rfl hmore
  | cons name more =>
    rw [stations_append]
    exact List.mem_append_right _ (List.mem_cons_self ..)

private theorem enter_eq (t : Tree) (place : Place) :
    t.enter place =
      match t.kindAt? place with
      | some .folder => .ok ()
      | some .file => .error .notFolder
      | none => .error .notFound := by
  unfold enter kindAt?
  cases t.get? place with
  | none => rfl
  | some e => cases e <;> rfl

/-- A walk takes its first step from a folder, if the name is not too long, and goes on. -/
theorem walk_cons (t : Tree) (place : Place) (name : String) (names : List String) :
    t.walk place (name :: names) =
      match t.enter place with
      | .error fault => .error fault
      | .ok () =>
        if name.utf8ByteSize > maxNameLength then .error .nameTooLong
        else t.walk (step place name) names := by
  rw [walk]
  cases t.enter place with
  | error fault => rfl
  | ok entered =>
    simp only [step]
    by_cases hstay : name = "" ∨ name = "."
    · have hshort : ¬ name.utf8ByteSize > maxNameLength := by rcases hstay with rfl | rfl <;> decide
      rw [if_pos hstay, if_neg hshort, if_pos hstay]
    · rw [if_neg hstay, if_neg hstay]
      by_cases hup : name = ".."
      · have hshort : ¬ name.utf8ByteSize > maxNameLength := by rw [hup]; decide
        rw [if_pos hup, if_neg hshort, if_pos hup]
      · rw [if_neg hup, if_neg hup]

/-- A walk that comes through has come to the goal. -/
theorem eq_goal_of_walk {t : Tree} {place reached : Place} {names : List String}
    (h : t.walk place names = .ok reached) : reached = goal place names := by
  induction names generalizing place with
  | nil => exact (Except.ok.inj h).symm
  | cons name names ih =>
    rw [walk_cons] at h
    split at h
    · cases h
    · split at h
      · cases h
      · exact ih h

variable {t t' : Tree}

/-- Walks go alike where the same kinds of entries stand at their stations. -/
theorem walk_congr {place : Place} {names : List String}
    (h : ∀ station ∈ stations place names, t'.kindAt? station = t.kindAt? station) :
    t'.walk place names = t.walk place names := by
  induction names generalizing place with
  | nil => rfl
  | cons name names ih =>
    have hfirst : t'.enter place = t.enter place := by
      rw [enter_eq, enter_eq, h place (List.mem_cons_self ..)]
    rw [walk_cons, walk_cons, hfirst,
      ih fun station hstation => h station (List.mem_cons_of_mem _ hstation)]

/-- On the way along the path the trees are alike, and at its end both have a folder or neither. -/
structure ApproachedAlike (t t' : Tree) (p : Path) : Prop where
  start : t'.start p = t.start p
  stations : ∀ place ∈ stations (t.start p) (names p), t'.kindAt? place = t.kindAt? place
  goal : t'.kindAt? (goal (t.start p) (names p)) = some .folder ↔
    t.kindAt? (goal (t.start p) (names p)) = some .folder

/-- Setting the same entry keeps trees alike. -/
theorem ApproachedAlike.set {p : Path} (h : ApproachedAlike t t' p) {place : Place} (e : Entry)
    (hne : place ≠ []) : ApproachedAlike (t.set place e) (t'.set place e) p where
  start := h.start
  stations station hstation := by
    rw [kindAt?_set e hne, kindAt?_set e hne, h.stations station hstation]
  goal := by
    rw [kindAt?_set e hne, kindAt?_set e hne]
    split
    · exact Iff.rfl
    · exact h.goal

/-- A file that is set where nothing or a file was, off the way along the path, hinders nobody. -/
theorem approachedAlike_set_file {p : Path} {place : Place} (bytes : ByteArray) (hne : place ≠ [])
    (hfree : t.kindAt? place ≠ some .folder)
    (hoff : place ∉ Tree.stations (t.start p) (names p)) :
    ApproachedAlike t (t.set place (.file bytes)) p where
  start := rfl
  stations station hstation := by
    rw [kindAt?_set _ hne, if_neg]
    rintro rfl
    exact hoff hstation
  goal := by
    rw [kindAt?_set _ hne]
    split
    · rename_i hgoal
      rw [hgoal]
      exact iff_of_false nofun hfree
    · exact Iff.rfl

/-- The trees are alike on the way along the path and at its end. -/
structure EnteredAlike (t t' : Tree) (p : Path) : Prop where
  start : t'.start p = t.start p
  stations : ∀ place ∈ stations (t.start p) (names p), t'.kindAt? place = t.kindAt? place
  goal : t'.kindAt? (goal (t.start p) (names p)) = t.kindAt? (goal (t.start p) (names p))

/-- Whoever enters a path approaches it on the way. -/
theorem EnteredAlike.approachedAlike {p : Path} (h : EnteredAlike t t' p) :
    ApproachedAlike t t' p where
  start := h.start
  stations := h.stations
  goal := by rw [h.goal]

/-- Whoever approaches a path enters every path that it goes through. -/
theorem ApproachedAlike.enteredAlike {p q : Path} (h : ApproachedAlike t t' p)
    (hthrough : p.GoesThrough q) (hne : q.text ≠ "") : EnteredAlike t t' q := by
  obtain ⟨more, hmore, hnames⟩ := names_goesThrough hthrough
  have hstations := h.stations
  rw [hnames, start_goesThrough hthrough hne] at hstations
  refine ⟨?_, fun place hplace => hstations place ?_, hstations _ (goal_mem_stations _ _ hmore)⟩
  · rw [← start_goesThrough hthrough hne, ← start_goesThrough hthrough hne, h.start]
  · rw [stations_append]
    exact List.mem_append_left _ hplace

/-- Slashes at the end add no station but the one at which they stand. -/
theorem EnteredAlike.withoutEndSlashes {p : Path} (h : EnteredAlike t t' p) :
    EnteredAlike t t' (withoutEndSlashes p) := by
  obtain ⟨n, hnames⟩ := names_withoutEndSlashes p
  have hstations := h.stations
  have hgoal := h.goal
  rw [hnames, stations_append] at hstations
  rw [hnames, goal_append, goal_replicate_empty] at hgoal
  refine ⟨?_, ?_, ?_⟩
  · rw [start_withoutEndSlashes, start_withoutEndSlashes, h.start]
  · rw [start_withoutEndSlashes]
    exact fun place hplace => hstations place (List.mem_append_left _ hplace)
  · rw [start_withoutEndSlashes]
    exact hgoal

/-- What stands at the end of a path, in terms of its walk. -/
theorem entry?_eq (t : Tree) (p : Path) :
    t.entry? p =
      match accept p with
      | .error _ => none
      | .ok () =>
        match t.walk (t.start p) (names p) with
        | .error _ => none
        | .ok place => t.kindAt? place := by
  unfold entry? resolve kindAt?
  cases accept p with
  | error fault => rfl
  | ok accepted =>
    cases t.walk (t.start p) (names p) with
    | error fault => rfl
    | ok place =>
      simp only [bind, Except.bind]
      cases t.get? place with
      | none => rfl
      | some e => cases e <;> rfl

/-- The same kind of entry stands at the end of a path that is entered alike. -/
theorem EnteredAlike.entry? {p : Path} (h : EnteredAlike t t' p) : t'.entry? p = t.entry? p := by
  rw [entry?_eq, entry?_eq, h.start, walk_congr h.stations]
  cases hwalk : t.walk (t.start p) (names p) with
  | error fault => rfl
  | ok place =>
    simp only
    rw [eq_goal_of_walk hwalk, h.goal]

/-- Whether an entry can be made, and where, depends on the way to it alone. -/
theorem ApproachedAlike.target {p : Path} (h : ApproachedAlike t t' p) :
    t'.target p = t.target p := by
  have hstations := h.stations
  have hsplit := names_eq_dropLast_append p
  rw [hsplit] at hstations
  have habove : t'.kindAt? (Tree.goal (t.start p) (names p).dropLast) =
      t.kindAt? (Tree.goal (t.start p) (names p).dropLast) :=
    hstations _ (goal_mem_stations _ _ (by simp))
  rw [stations_append] at hstations
  have hwalk : t'.walk (t.start p) (names p).dropLast = t.walk (t.start p) (names p).dropLast :=
    walk_congr fun place hplace => hstations place (List.mem_append_left _ hplace)
  unfold Tree.target
  rw [h.start, hwalk]
  cases accept p with
  | error fault => rfl
  | ok accepted =>
    cases hreached : t.walk (t.start p) (names p).dropLast with
    | error fault => rfl
    | ok above =>
      have henter : t'.enter above = t.enter above := by
        rw [enter_eq, enter_eq, eq_goal_of_walk hreached, habove]
      simp only [bind, Except.bind, henter]

/-- The place of an entry that can be made is the goal of its path. -/
theorem goal_of_target {p : Path} {above : Place} {name : String}
    (h : t.target p = .ok (above, name)) (hname : ¬ (name = "" ∨ name = "." ∨ name = "..")) :
    Tree.goal (t.start p) (names p) = above ++ [name] := by
  obtain ⟨_, hwalk, _, hlast⟩ := target_eq_ok_iff.mp h
  simp only [not_or] at hname
  rw [names_eq_dropLast_append, hlast, goal_append, ← eq_goal_of_walk hwalk]
  change step above name = above ++ [name]
  rw [step, if_neg (by simp [hname.1, hname.2.1]), if_neg hname.2.2]

/-- Two attempts at a change fail for the same reason, or set the same entry. -/
inductive ChangedAlike (t t' : Tree) : Except FileFault Tree → Except FileFault Tree → Prop where
  | fails (fault : FileFault) : ChangedAlike t t' (.error fault) (.error fault)
  | sets {place : Place} (e : Entry) (hne : place ≠ []) :
      ChangedAlike t t' (.ok (t.set place e)) (.ok (t'.set place e))

/-- Trees that are entered alike are changed alike by making the folder. -/
theorem EnteredAlike.makeFolder {p : Path} (h : EnteredAlike t t' p) :
    ChangedAlike t t' (t.makeFolder p) (t'.makeFolder p) := by
  have halike := h.withoutEndSlashes
  unfold Tree.makeFolder
  rw [halike.approachedAlike.target]
  cases htarget : t.target (Tree.withoutEndSlashes p) with
  | error fault => exact .fails fault
  | ok found =>
    obtain ⟨above, name⟩ := found
    simp only [bind, Except.bind]
    by_cases hspecial : name = "" ∨ name = "." ∨ name = ".."
    · simp only [if_pos hspecial]
      exact .fails _
    · have hthere : (t'.get? (above ++ [name])).isSome = (t.get? (above ++ [name])).isSome := by
        have hkind := congrArg Option.isSome halike.goal
        rwa [goal_of_target htarget hspecial, kindAt?, kindAt?, Option.isSome_map,
          Option.isSome_map] at hkind
      simp only [if_neg hspecial, hthere]
      split
      · exact .fails _
      · split
        · exact .fails _
        · exact .sets .folder (by simp)

/-- Trees that are approached alike are changed alike by writing the file, whatever else they
    hold. -/
theorem ApproachedAlike.writeBytes {p : Path} (h : ApproachedAlike t t' p) (bytes : ByteArray) :
    ChangedAlike t t' (t.writeBytes p bytes) (t'.writeBytes p bytes) := by
  unfold Tree.writeBytes
  rw [h.target]
  cases htarget : t.target p with
  | error fault => exact .fails fault
  | ok found =>
    obtain ⟨above, name⟩ := found
    simp only [bind, Except.bind]
    by_cases hspecial : name = "" ∨ name = "." ∨ name = ".."
    · simp only [if_pos hspecial]
      exact .fails _
    · have hgoal := h.goal
      rw [goal_of_target htarget hspecial, kindAt?_eq_folder_iff, kindAt?_eq_folder_iff] at hgoal
      simp only [if_neg hspecial]
      split
      · exact .fails _
      · by_cases hfolder : t.get? (above ++ [name]) = some .folder
        · rw [hfolder, hgoal.mpr hfolder]
          exact .fails _
        · have hfolder' := mt hgoal.mp hfolder
          split
          · contradiction
          · exact .sets (.file bytes) (by simp)

end Tree

end AccessLayer
