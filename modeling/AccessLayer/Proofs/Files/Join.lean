import AccessLayer.Proofs.Files.Operations

namespace AccessLayer

open Text

namespace Path

/-- The folders above what stands at the path, the nearest first. -/
def above (p : Path) : List Path := (p.parent?.map (·.ancestors)).getD []

private theorem splitStart_append (cs : List Char) :
    (splitStart cs).1 ++ (splitStart cs).2 = cs := by
  unfold splitStart
  split <;> rfl

private theorem tidyEnd_suffix (cs : List Char) : tidyEnd cs <:+ cs := by
  fun_induction tidyEnd cs with
  | case1 rest ih => exact ih.trans (List.suffix_cons _ _)
  | case2 => exact List.nil_suffix
  | case3 rest ih => exact (ih.trans (List.suffix_cons _ _)).trans (List.suffix_cons _ _)
  | case4 cs => exact List.suffix_rfl

private theorem takeLast_suffix (cs : List Char) : (takeLast cs).2 <:+ cs :=
  (List.drop_suffix _ _).trans (List.dropWhile_suffix _)

/-- The parent of a path is written with its first characters. -/
theorem parent?_prefix {p up : Path} (h : p.parent? = some up) :
    up.text.toList <+: p.text.toList := by
  unfold parent? at h
  cases hsplit : splitStart p.text.toList with
  | mk start body =>
    have htext : start ++ body = p.text.toList := by
      rw [← splitStart_append p.text.toList, hsplit]
    simp only [hsplit] at h
    split at h
    · split at h
      · cases h
        exact List.nil_prefix
      · cases h
    · cases h
      have hsuffix : tidyEnd (takeLast (tidyEnd body.reverse)).2 <:+ body.reverse :=
        ((tidyEnd_suffix _).trans (takeLast_suffix _)).trans (tidyEnd_suffix _)
      have hprefix := List.reverse_prefix.mpr hsuffix
      rw [List.reverse_reverse] at hprefix
      rw [String.toList_ofList, ← htext]
      exact (List.prefix_append_right_inj start).mpr hprefix

private theorem tidyEnd_cases (cs : List Char) :
    tidyEnd cs = [] ∨ tidyEnd cs = cs ∨ ∃ dropped, cs = dropped ++ '/' :: tidyEnd cs := by
  fun_induction tidyEnd cs with
  | case1 rest ih =>
    rcases ih with hnone | hall | ⟨dropped, hdropped⟩
    · exact Or.inl hnone
    · exact Or.inr (Or.inr ⟨[], by rw [hall, List.nil_append]⟩)
    · exact Or.inr (Or.inr ⟨'/' :: dropped, by rw [List.cons_append, ← hdropped]⟩)
  | case2 => exact Or.inl rfl
  | case3 rest ih =>
    rcases ih with hnone | hall | ⟨dropped, hdropped⟩
    · exact Or.inl hnone
    · exact Or.inr (Or.inr ⟨['.'], by rw [hall, List.singleton_append]⟩)
    · exact Or.inr (Or.inr ⟨'.' :: '/' :: dropped, by
        rw [List.cons_append, List.cons_append, ← hdropped]⟩)
  | case4 cs => exact Or.inr (Or.inl rfl)

/-- The text of the path goes on, after a slash, from that of a path above it. -/
def GoesThrough (p up : Path) : Prop := ∃ rest, p.text.toList = up.text.toList ++ '/' :: rest

/-- A path goes through what those go through that it goes through. -/
theorem GoesThrough.trans {p up top : Path} (h : p.GoesThrough up) (h' : up.GoesThrough top) :
    p.GoesThrough top := by
  obtain ⟨rest, hrest⟩ := h
  obtain ⟨rest', hrest'⟩ := h'
  exact ⟨rest' ++ '/' :: rest, by rw [hrest, hrest', List.append_assoc, List.cons_append]⟩

private theorem exists_slash_before (reversed : List Char)
    (hne : tidyEnd (takeLast reversed).2 ≠ []) :
    ∃ dropped, reversed = dropped ++ '/' :: tidyEnd (takeLast reversed).2 := by
  have hsplit := List.takeWhile_append_dropWhile (p := (· != '/')) (l := reversed)
  cases hrest : reversed.dropWhile (· != '/') with
  | nil =>
    rw [takeLast, hrest] at hne
    exact absurd rfl hne
  | cons c rest =>
    have hslash := List.head_dropWhile_not (p := (· != '/')) (l := reversed) (by simp [hrest])
    simp only [hrest, List.head_cons, bne_eq_false_iff_eq] at hslash
    have hkept : (takeLast reversed).2 = rest := by rw [takeLast, hrest, List.drop_one, List.tail_cons]
    rw [hrest, hslash] at hsplit
    rw [hkept] at hne ⊢
    rcases tidyEnd_cases rest with hnone | hall | ⟨dropped, hdropped⟩
    · exact absurd hnone hne
    · exact ⟨_, by rw [hall]; exact hsplit.symm⟩
    · refine ⟨reversed.takeWhile (· != '/') ++ '/' :: dropped, ?_⟩
      rw [List.append_assoc, List.cons_append, ← hdropped]
      exact hsplit.symm

/-- A path goes through its parent, unless that is empty or the root. What precedes the last
    component, slashes and dots dropped, ends where a slash stands. -/
theorem goesThrough_parent {p up : Path} (h : p.parent? = some up) (hup : up.parent? ≠ none) :
    p.GoesThrough up := by
  unfold parent? at h
  cases hsplit : splitStart p.text.toList with
  | mk start body =>
    have htext : start ++ body = p.text.toList := by
      rw [← splitStart_append p.text.toList, hsplit]
    simp only [hsplit] at h
    split at h
    · split at h
      · cases h
        exact absurd rfl hup
      · cases h
    · rename_i hbody
      cases h
      by_cases hend : tidyEnd (takeLast (tidyEnd body.reverse)).2 = []
      · -- only the start is left, which has a parent of its own if it is the dot
        rw [hend, List.reverse_nil, List.append_nil] at hup ⊢
        unfold splitStart at hsplit
        split at hsplit
        · cases hsplit
          exact absurd rfl hup
        · cases hsplit
          exact absurd rfl hbody
        · rename_i rest hdot
          obtain ⟨rfl, rfl⟩ := Prod.mk.inj hsplit
          exact ⟨rest, hdot⟩
        · obtain ⟨rfl, -⟩ := Prod.mk.inj hsplit
          exact absurd rfl hup
      · obtain ⟨dropped, hdropped⟩ := exists_slash_before _ hend
        have hreversed : ∃ more, body.reverse =
            more ++ '/' :: tidyEnd (takeLast (tidyEnd body.reverse)).2 := by
          rcases tidyEnd_cases body.reverse with hnone | hall | ⟨dropped', hdropped'⟩
          · exact absurd hnone hbody
          · exact ⟨dropped, by rw [← hdropped, hall]⟩
          · exact ⟨dropped' ++ '/' :: dropped, by
              rw [List.append_assoc, List.cons_append, ← hdropped, ← hdropped']⟩
        obtain ⟨more, hmore⟩ := hreversed
        refine ⟨more.reverse, ?_⟩
        have hback := congrArg List.reverse hmore
        rw [List.reverse_reverse, List.reverse_append, List.reverse_cons, List.append_assoc,
          List.singleton_append] at hback
        rw [← htext, String.toList_ofList, List.append_assoc, ← hback]

private theorem of_mem_ancestorsUpTo {fuel : Nat} {up q : Path} (h : q ∈ ancestorsUpTo fuel up) :
    up.parent? ≠ none ∧ q.parent? ≠ none ∧ (q = up ∨ up.GoesThrough q) := by
  induction fuel generalizing up with
  | zero => cases h
  | succ fuel ih =>
    rw [ancestorsUpTo] at h
    split at h
    · cases h
    · rename_i top htop
      have hup : up.parent? ≠ none := by simp [htop]
      rcases List.mem_cons.mp h with rfl | hrest
      · exact ⟨hup, hup, Or.inl rfl⟩
      · obtain ⟨hparent, hq, hwhere⟩ := ih hrest
        have hthrough := goesThrough_parent htop hparent
        rcases hwhere with rfl | hfurther
        · exact ⟨hup, hq, Or.inr hthrough⟩
        · exact ⟨hup, hq, Or.inr (hthrough.trans hfurther)⟩

/-- A path goes through every folder above it, none of which is the empty path. -/
theorem goesThrough_of_mem_above {p q : Path} (h : q ∈ p.above) :
    p.GoesThrough q ∧ q.text ≠ "" := by
  unfold above at h
  cases hparent : p.parent? with
  | none =>
    rw [hparent] at h
    cases h
  | some up =>
    rw [hparent] at h
    obtain ⟨hup, hq, hwhere⟩ := of_mem_ancestorsUpTo h
    have hthrough := goesThrough_parent hparent hup
    refine ⟨?_, ?_⟩
    · rcases hwhere with rfl | hfurther
      · exact hthrough
      · exact hthrough.trans hfurther
    · intro hempty
      apply hq
      rw [parent?, hempty]
      rfl

/-- The nearest folder above a path is its parent, unless that is empty. -/
theorem parent?_of_above {p up : Path} {more : List Path} (h : p.above = up :: more) :
    p.parent? = some up ∧ up.text ≠ "" := by
  unfold above at h
  cases hparent : p.parent? with
  | none =>
    rw [hparent] at h
    cases h
  | some found =>
    rw [hparent] at h
    change found.ancestors = up :: more at h
    unfold ancestors at h
    cases hlength : found.text.length with
    | zero =>
      rw [hlength] at h
      cases h
    | succ fuel =>
      rw [hlength, ancestorsUpTo] at h
      split at h
      · cases h
      · obtain ⟨rfl, _⟩ := List.cons.inj h
        refine ⟨rfl, ?_⟩
        intro hempty
        rw [hempty] at hlength
        cases hlength

end Path

namespace Tree

/-- The system takes the nearest folder above a path whenever it takes the path. -/
theorem accept_above {p up : Path} {more : List Path} (h : accept p = .ok ())
    (habove : p.above = up :: more) : accept up = .ok () := by
  obtain ⟨hend, _, hshort⟩ := accept_eq_ok_iff.mp h
  obtain ⟨hparent, hne⟩ := Path.parent?_of_above habove
  obtain ⟨tail, htail⟩ := Path.parent?_prefix hparent
  refine accept_eq_ok_iff.mpr ⟨?_, hne, ?_⟩
  · intro hmem
    exact hend (htail ▸ List.mem_append_left _ hmem)
  · have htext : up.text ++ String.ofList tail = p.text := by
      rw [← String.toList_inj, String.toList_append, String.toList_ofList, htail]
    have hsize := congrArg String.utf8ByteSize htext
    rw [String.utf8ByteSize_append] at hsize
    omega

/-- The names of a path begin with those of every path that it goes through. -/
theorem names_goesThrough {p q : Path} (h : p.GoesThrough q) :
    ∃ more, more ≠ [] ∧ names p = names q ++ more := by
  obtain ⟨rest, hrest⟩ := h
  refine ⟨(pieces (· == '/') rest).map String.ofList, by simp [pieces_ne_nil], ?_⟩
  rw [names, hrest, pieces_append_separator rfl, List.map_append, names]

/-- A path starts where those start that it goes through, but for the empty one. -/
theorem start_goesThrough {p q : Path} (h : p.GoesThrough q) (hne : q.text ≠ "") (t : Tree) :
    t.start p = t.start q := by
  obtain ⟨rest, hrest⟩ := h
  have hsome : q.text.toList ≠ [] := by simpa using hne
  have habsolute : p.isAbsolute = q.isAbsolute := by
    rw [Path.isAbsolute, hrest, List.head?_append_of_ne_nil _ hsome, Path.isAbsolute]
  rw [start, start, habsolute]

/-- A path is told by its names. -/
theorem names_injective : Function.Injective names := by
  intro p q h
  have hpieces := List.map_injective_iff.mpr (fun _ _ => String.ofList_injective) h
  have htext := String.toList_inj.mp (pieces_beq_injective '/' hpieces)
  cases p
  cases q
  exact congrArg Path.mk htext

/-- Every name of the path is a step down. -/
def IsPlain (p : Path) : Prop := ∀ name ∈ names p, name ≠ "" ∧ name ≠ "." ∧ name ≠ ".."

/-- A plain path leads down from where it is joined. -/
theorem IsPlain.isAbsolute {p : Path} (h : IsPlain p) : p.isAbsolute = false := by
  unfold Path.isAbsolute
  cases htext : p.text.toList with
  | nil => rfl
  | cons c cs =>
    have hslash : c ≠ '/' := by
      rintro rfl
      have hempty : "" ∈ names p := by
        rw [names, htext, pieces, if_pos (beq_self_eq_true '/')]
        simp
      exact (h "" hempty).1 rfl
    simpa using hslash

private theorem join_isAbsolute (out : Path) {p : Path} (hp : p.isAbsolute = false) :
    (out.join p).isAbsolute = out.isAbsolute := by
  unfold Path.join
  rw [if_neg (by simp [hp])]
  by_cases hempty : out.text.toList = []
  · have hnone : out.isAbsolute = false := by simp [Path.isAbsolute, hempty]
    have htext : out.text = "" := by simpa using hempty
    rw [htext, hnone]
    simpa [Path.isAbsolute] using hp
  · split
    · rw [Path.isAbsolute, String.toList_append, List.head?_append_of_ne_nil _ hempty, Path.isAbsolute]
    · rw [Path.isAbsolute, String.toList_append, String.toList_append, List.append_assoc,
        List.head?_append_of_ne_nil _ hempty, Path.isAbsolute]

/-- The names of a joined path are those of the directory, then its own, if the directory does not
    end in a slash. -/
theorem names_join {out p : Path} (hempty : out.text ≠ "")
    (hlast : out.text.toList.getLast? ≠ some '/') (hp : p.isAbsolute = false) :
    names (out.join p) = names out ++ names p := by
  rw [Path.join, if_neg (by simp [hp]), if_neg (by simp [hempty, hlast]), names,
    String.toList_append, String.toList_append, List.append_assoc]
  change List.map _ (pieces _ (out.text.toList ++ '/' :: p.text.toList)) = _
  rw [pieces_append_separator rfl, List.map_append, names, names]

/-- A directory puts the same names before those of every path that is joined to it. -/
theorem exists_names_join (out : Path) :
    ∃ front, ∀ p : Path, p.isAbsolute = false → names (out.join p) = front ++ names p := by
  by_cases hempty : out.text = ""
  · refine ⟨[], fun p hp => ?_⟩
    rw [Path.join, if_neg (by simp [hp]), if_pos (by simp [hempty]), hempty, String.empty_append]
    rfl
  · by_cases hlast : out.text.toList.getLast? = some '/'
    · obtain ⟨init, hinit⟩ := List.getLast?_eq_some_iff.mp hlast
      refine ⟨(pieces (· == '/') init).map String.ofList, fun p hp => ?_⟩
      rw [Path.join, if_neg (by simp [hp]), if_pos (by simp [hlast]), names, String.toList_append,
        hinit, List.append_assoc, List.singleton_append, pieces_append_separator rfl,
        List.map_append, names]
    · exact ⟨names out, fun p hp => names_join hempty hlast hp⟩

/-- A text without slashes is one name. -/
theorem names_of_free {name : String} (h : '/' ∉ name.toList) : names ⟨name⟩ = [name] := by
  have hfree : ∀ c ∈ name.toList, (c == '/') = false := by
    intro c hc
    have hne : c ≠ '/' := by
      rintro rfl
      exact h hc
    simpa using hne
  rw [names, pieces_of_free hfree]
  simp

/-- A text without slashes that is not all dots is a plain path. -/
theorem isPlain_of_free {name : String} (h : '/' ∉ name.toList)
    (hsolid : name.toList.any (· != '.') = true) : IsPlain ⟨name⟩ := by
  obtain ⟨c, hmem, hsolid⟩ := List.any_eq_true.mp hsolid
  have hc : c ≠ '.' := by simpa using hsolid
  intro other hother
  rw [names_of_free h, List.mem_singleton] at hother
  rw [hother]
  refine ⟨?_, ?_, ?_⟩
  · rintro rfl
    cases hmem
  · rintro rfl
    exact hc (List.mem_singleton.mp hmem)
  · rintro rfl
    rcases List.mem_cons.mp hmem with hfirst | hsecond
    · exact hc hfirst
    · exact hc (List.mem_singleton.mp hsecond)

/-- Plain paths put one behind the other have the names of both. -/
theorem IsPlain.names_join {p q : Path} (hp : IsPlain p) (hq : IsPlain q) :
    names (p.join q) = names p ++ names q := by
  refine Tree.names_join ?_ ?_ hq.isAbsolute
  · intro hempty
    have hmem : "" ∈ names p := by
      rw [names, hempty]
      simp [pieces]
    exact (hp "" hmem).1 rfl
  · intro hlast
    obtain ⟨init, hinit⟩ := List.getLast?_eq_some_iff.mp hlast
    have hmem : "" ∈ names p := by
      rw [names, hinit, pieces_append_separator rfl]
      simp [pieces]
    exact (hp "" hmem).1 rfl

/-- Plain paths put one behind the other are a plain path. -/
theorem IsPlain.join {p q : Path} (hp : IsPlain p) (hq : IsPlain q) : IsPlain (p.join q) := by
  intro name hname
  rw [hp.names_join hq] at hname
  rcases List.mem_append.mp hname with hleft | hright
  · exact hp name hleft
  · exact hq name hright

private theorem walk_plain {t : Tree} {place reached : Place} {more : List String}
    (hplain : ∀ name ∈ more, name ≠ "" ∧ name ≠ "." ∧ name ≠ "..")
    (h : t.walk place more = .ok reached) : reached = place ++ more := by
  induction more generalizing place with
  | nil =>
    rw [List.append_nil]
    exact (Except.ok.inj h).symm
  | cons name more ih =>
    have hname := hplain name (by simp)
    rcases (walk_cons_eq_ok h).2 with ⟨hstay, _⟩ | ⟨hdots, _⟩ | ⟨_, _, hrest⟩
    · rcases hstay with hempty | hdot
      · exact absurd hempty hname.1
      · exact absurd hdot hname.2.1
    · exact absurd hdots hname.2.2
    · rw [ih (fun other hother => hplain other (List.mem_cons_of_mem _ hother)) hrest,
        List.append_assoc, List.singleton_append]

/-- Plain paths below one directory that lead to one place are the same path. -/
theorem eq_of_placeOf?_join {t : Tree} {out p q : Path} {place : Place} (hp : IsPlain p)
    (hq : IsPlain q) (hplace : t.placeOf? (out.join p) = some place)
    (hsame : t.placeOf? (out.join q) = some place) : p = q := by
  obtain ⟨front, hfront⟩ := exists_names_join out
  rw [placeOf?_eq_some_iff, hfront p hp.isAbsolute, start, join_isAbsolute out hp.isAbsolute]
    at hplace
  rw [placeOf?_eq_some_iff, hfront q hq.isAbsolute, start, join_isAbsolute out hq.isAbsolute]
    at hsame
  obtain ⟨folder, hfolder, hrest⟩ := walk_append_eq_ok hplace
  obtain ⟨folder', hfolder', hrest'⟩ := walk_append_eq_ok hsame
  have hfolders : folder = folder' := Except.ok.inj (hfolder.symm.trans hfolder')
  have hends := (walk_plain hp hrest).symm.trans (walk_plain hq hrest')
  rw [hfolders] at hends
  exact names_injective (List.append_cancel_left hends)

end Tree

end AccessLayer
