import AccessLayer.Files.Sandbox
import AccessLayer.Proofs.Files.Agreement
import AccessLayer.Proofs.Files.Join

namespace AccessLayer

namespace Sandbox

open AccessLayer.Tree

/-- The tree has grown and the flag is as it was. Files differ at most where `written` leads, and
    folders are new at most where `made` leads. -/
structure Alters (s s' : Sandbox) (written made : List Path) : Prop where
  cancelled : s'.cancelled = s.cancelled
  grows : Grows s.tree s'.tree
  file : ∀ place bytes, (∀ p ∈ written, s'.tree.placeOf? p ≠ some place) →
    (s'.tree.get? place = some (.file bytes) ↔ s.tree.get? place = some (.file bytes))
  folder : ∀ place, s'.tree.get? place = some .folder →
    s.tree.get? place = some .folder ∨ ∃ p ∈ made, s'.tree.placeOf? p = some place

/-- Where nothing happens nothing is touched, whatever might have been. -/
theorem Alters.refl (s : Sandbox) (written made : List Path) : Alters s s written made where
  cancelled := rfl
  grows := Grows.refl s.tree
  file _ _ _ := Iff.rfl
  folder _ h := Or.inl h

private theorem Alters.mono {s s' : Sandbox} {written written' made made' : List Path}
    (h : Alters s s' written made) (hwritten : written ⊆ written') (hmade : made ⊆ made') :
    Alters s s' written' made' where
  cancelled := h.cancelled
  grows := h.grows
  file place bytes hapart := h.file place bytes fun p hp => hapart p (hwritten hp)
  folder place hfolder := by
    rcases h.folder place hfolder with hold | ⟨p, hp, hplace⟩
    · exact Or.inl hold
    · exact Or.inr ⟨p, hmade hp, hplace⟩

/-- Two changes in a row touch what either may touch: a path leads on to where it led between
    them. -/
theorem Alters.trans {s s' s'' : Sandbox} {written written' made made' : List Path}
    (h : Alters s s' written made) (h' : Alters s' s'' written' made') :
    Alters s s'' (written ++ written') (made ++ made') where
  cancelled := h'.cancelled.trans h.cancelled
  grows := h.grows.trans h'.grows
  file place bytes hapart := by
    have hlate : ∀ p ∈ written', s''.tree.placeOf? p ≠ some place :=
      fun p hp => hapart p (List.mem_append_right _ hp)
    have hearly : ∀ p ∈ written, s'.tree.placeOf? p ≠ some place :=
      fun p hp hplace => hapart p (List.mem_append_left _ hp) (h'.grows.placeOf? hplace)
    exact (h'.file place bytes hlate).trans (h.file place bytes hearly)
  folder place hfolder := by
    rcases h'.folder place hfolder with hbetween | ⟨p, hp, hplace⟩
    · rcases h.folder place hbetween with hold | ⟨p, hp, hplace⟩
      · exact Or.inl hold
      · exact Or.inr ⟨p, List.mem_append_left _ hp, h'.grows.placeOf? hplace⟩
    · exact Or.inr ⟨p, List.mem_append_right _ hp, hplace⟩

/-- A text that is not among the written files can still be read. -/
theorem Alters.readText {s s' : Sandbox} {written made : List Path} (h : Alters s s' written made)
    {p : Path} {text : String} (hread : s.tree.readText p = .ok text)
    (hapart : ∀ q ∈ written, s'.tree.placeOf? q ≠ s'.tree.placeOf? p) :
    s'.tree.readText p = .ok text := by
  obtain ⟨place, bytes, hresolve, htext⟩ := readText_eq_ok_iff.mp hread
  obtain ⟨haccept, hwalk, hfile⟩ := resolve_eq_ok_iff.mp hresolve
  have hplace := h.grows.placeOf? (placeOf?_of_resolve hresolve)
  rw [hplace] at hapart
  refine readText_eq_ok_iff.mpr ⟨place, bytes, resolve_eq_ok_iff.mpr ⟨haccept, ?_, ?_⟩, htext⟩
  · rw [h.grows.start]
    exact h.grows.walk hwalk
  · exact (h.file place bytes hapart).mpr hfile

/-- An action goes on from the state in which its first part leaves it. -/
theorem bind_apply {σ α β : Type} {x : StateM σ α} {s s₁ : σ} {a : α} (h : x s = (a, s₁))
    (f : α → StateM σ β) : (x >>= f) s = f a s₁ := by
  change f (x s).1 (x s).2 = f a s₁
  rw [h]

/-- What an attempt at an operation comes to. -/
theorem attempt_eq_iff {op : Tree → Except FileFault Tree} {s s' : Sandbox}
    {result : Except FileFault Unit} :
    attempt op s = (result, s') ↔
      (result = .ok () ∧ ∃ tree, op s.tree = .ok tree ∧ s' = { s with tree }) ∨
        ∃ fault, result = .error fault ∧ op s.tree = .error fault ∧ s' = s := by
  unfold attempt
  cases hop : op s.tree with
  | ok tree =>
    simp only [reduceCtorEq, Except.ok.injEq, false_and, and_false, exists_false, or_false,
      exists_eq_left']
    constructor
    · intro h
      obtain ⟨hresult, hstate⟩ := Prod.mk.inj h
      exact ⟨hresult.symm, hstate.symm⟩
    · rintro ⟨rfl, rfl⟩
      rfl
  | error fault =>
    simp only [reduceCtorEq, Except.error.injEq, false_and, and_false, exists_false, false_or]
    constructor
    · intro h
      obtain ⟨hresult, hstate⟩ := Prod.mk.inj h
      exact ⟨fault, hresult.symm, rfl, hstate.symm⟩
    · rintro ⟨_, rfl, rfl, rfl⟩
      rfl

private theorem makeFolder_apply (p : Path) (s : Sandbox) :
    host.makeFolder p s = attempt (·.makeFolder p) s := by
  simp only [host]

private theorem writeText_apply (p : Path) (contents : String) (s : Sandbox) :
    host.writeText p contents s = attempt (·.writeBytes p contents.toUTF8) s := by
  simp only [host]

private theorem alters_makeFolder {p : Path} {s s' : Sandbox} {result : Except FileFault Unit}
    (h : host.makeFolder p s = (result, s')) : Alters s s' [] [p] := by
  rw [makeFolder_apply] at h
  rcases attempt_eq_iff.mp h with ⟨_, tree, htree, rfl⟩ | ⟨fault, _, _, rfl⟩
  · obtain ⟨place, hne, hfree, rfl, hplace⟩ := makeFolder_eq_ok htree
    refine ⟨rfl, grows_set_folder hne hfree, fun other bytes _ => ?_, fun other hother => ?_⟩
    · simp only [get?_set _ hne]
      split
      · rename_i hsame
        simp [hsame, hfree]
      · exact Iff.rfl
    · simp only [get?_set _ hne] at hother
      split at hother
      · rename_i hsame
        rw [hsame]
        exact Or.inr ⟨p, by simp, hplace⟩
      · exact Or.inl hother
  · exact Alters.refl s' [] [p]

private theorem settle_alreadyExists (p : Path) (s : Sandbox) :
    host.settle p (.error .alreadyExists) s =
      (if s.tree.entry? p = some .folder then .ok () else .error .alreadyExists, s) := by
  rw [Host.settle, bind_apply (x := host.entry? p) rfl]
  by_cases hfolder : s.tree.entry? p = some .folder
  · rw [if_pos hfolder, hfolder]
    rfl
  · rw [if_neg hfolder, if_neg (by simpa using hfolder)]
    rfl

private theorem settle_eq {p : Path} {made result : Except FileFault Unit} {s s' : Sandbox}
    (h : host.settle p made s = (result, s')) :
    s' = s ∧ (result = .ok () → made = .ok () ∨ s.tree.entry? p = some .folder) := by
  by_cases hmade : made = .error .alreadyExists
  · rw [hmade, settle_alreadyExists] at h
    obtain ⟨hresult, hstate⟩ := Prod.mk.inj h
    refine ⟨hstate.symm, fun hok => Or.inr ?_⟩
    by_contra hother
    rw [hok, if_neg hother] at hresult
    cases hresult
  · unfold Host.settle at h
    split at h
    · exact absurd rfl hmade
    · obtain ⟨hresult, hstate⟩ := Prod.mk.inj h
      exact ⟨hstate.symm, fun hok => Or.inl (hresult.trans hok)⟩

/-- Making folders first tries the nearest, and after a failure for want of a parent makes those
    above it and tries again. -/
theorem makeFolders_cons_eq {p : Path} {above : List Path} {s s' : Sandbox}
    {result : Except FileFault Unit} (h : host.makeFolders (p :: above) s = (result, s')) :
    ∃ first s₁, host.makeFolder p s = (first, s₁) ∧
      (first ≠ .error .notFound ∧ host.settle p first s₁ = (result, s') ∨
        first = .error .notFound ∧ ∃ rest s₂, host.makeFolders above s₁ = (rest, s₂) ∧
          ((∃ fault, rest = .error fault ∧ result = .error fault ∧ s' = s₂) ∨
            rest = .ok () ∧ ∃ second s₃, host.makeFolder p s₂ = (second, s₃) ∧
              host.settle p second s₃ = (result, s'))) := by
  cases hfirst : host.makeFolder p s with
  | mk first s₁ =>
    refine ⟨first, s₁, rfl, ?_⟩
    rw [Host.makeFolders, bind_apply hfirst] at h
    split at h
    · refine Or.inr ⟨rfl, ?_⟩
      cases hrest : host.makeFolders above s₁ with
      | mk rest s₂ =>
        refine ⟨rest, s₂, rfl, ?_⟩
        rw [bind_apply hrest] at h
        split at h
        · rename_i fault
          obtain ⟨hresult, hstate⟩ := Prod.mk.inj h
          exact Or.inl ⟨fault, rfl, hresult.symm, hstate.symm⟩
        · refine Or.inr ⟨rfl, ?_⟩
          cases hsecond : host.makeFolder p s₂ with
          | mk second s₃ =>
            rw [bind_apply hsecond] at h
            exact ⟨second, s₃, rfl, h⟩
    · rename_i hother
      exact Or.inl ⟨hother, h⟩

/-- Making folders touches nothing but places to which one of them leads. The first attempt may
    settle it; otherwise the folders above are made and it is repeated. -/
theorem alters_makeFolders {ps : List Path} {s s' : Sandbox} {result : Except FileFault Unit}
    (h : host.makeFolders ps s = (result, s')) : Alters s s' [] ps := by
  induction ps generalizing s s' result with
  | nil =>
    obtain ⟨_, rfl⟩ := Prod.mk.inj h
    exact Alters.refl s [] []
  | cons p above ih =>
    have hhead : [p] ⊆ p :: above := by simp
    have habove : above ⊆ p :: above := List.subset_cons_self p above
    obtain ⟨first, s₁, hfirst, ⟨_, hsettle⟩ | ⟨_, rest, s₂, hrest, hend⟩⟩ := makeFolders_cons_eq h
    · obtain ⟨rfl, _⟩ := settle_eq hsettle
      exact (alters_makeFolder hfirst).mono (List.Subset.refl []) hhead
    · have hbefore := ((alters_makeFolder hfirst).trans (ih hrest)).mono (List.Subset.refl [])
        (List.append_subset_of_subset_of_subset hhead habove)
      rcases hend with ⟨_, _, _, rfl⟩ | ⟨_, second, s₃, hsecond, hsettle⟩
      · exact hbefore
      · obtain ⟨rfl, _⟩ := settle_eq hsettle
        exact (hbefore.trans (alters_makeFolder hsecond)).mono (List.Subset.refl [])
          (List.append_subset_of_subset_of_subset (List.Subset.refl _) hhead)

private theorem resolve_of_settled {p : Path} {made : Except FileFault Unit} {s s₁ s' : Sandbox}
    (haccept : accept p = .ok ()) (hmade : host.makeFolder p s = (made, s₁))
    (hsettle : host.settle p made s₁ = (.ok (), s')) :
    ∃ place, s'.tree.resolve p = .ok (place, .folder) := by
  obtain ⟨rfl, hsettled⟩ := settle_eq hsettle
  rcases hsettled rfl with rfl | hthere
  · rw [makeFolder_apply] at hmade
    rcases attempt_eq_iff.mp hmade with ⟨_, tree, htree, rfl⟩ | ⟨fault, hfault, _⟩
    · obtain ⟨place, hne, _, rfl, hplace⟩ := makeFolder_eq_ok htree
      refine ⟨place, resolve_eq_ok_iff.mpr ⟨haccept, placeOf?_eq_some_iff.mp hplace, ?_⟩⟩
      rw [get?_set _ hne, if_pos rfl]
    · cases hfault
  · exact entry?_eq_folder_iff.mp hthere

/-- Once folders are made, the nearest of them is there. -/
theorem resolve_of_makeFolders {p : Path} {above : List Path} {s s' : Sandbox}
    (haccept : accept p = .ok ()) (h : host.makeFolders (p :: above) s = (.ok (), s')) :
    ∃ place, s'.tree.resolve p = .ok (place, .folder) := by
  obtain ⟨first, s₁, hfirst, ⟨_, hsettle⟩ | ⟨_, rest, s₂, _, hend⟩⟩ := makeFolders_cons_eq h
  · exact resolve_of_settled haccept hfirst hsettle
  · rcases hend with ⟨_, _, hfault, _⟩ | ⟨_, second, s₃, hsecond, hsettle⟩
    · cases hfault
    · exact resolve_of_settled haccept hsecond hsettle

/-- Where the nearest folder is there, nothing is left to make. -/
theorem makeFolders_of_folder {p : Path} {s : Sandbox} {place : Place}
    (h : s.tree.resolve p = .ok (place, .folder)) (above : List Path) :
    host.makeFolders (p :: above) s = (.ok (), s) := by
  have hmade : host.makeFolder p s = (.error .alreadyExists, s) := by
    rw [makeFolder_apply]
    exact attempt_eq_iff.mpr (Or.inr ⟨.alreadyExists, rfl, makeFolder_of_folder h, rfl⟩)
  have hthere : s.tree.entry? p = some .folder := entry?_eq_folder_iff.mpr ⟨place, h⟩
  rw [Host.makeFolders, bind_apply hmade]
  exact (settle_alreadyExists p s).trans (by rw [if_pos hthere])

/-- The path names a file, and the nearest of its folders is there: it can be written again. -/
structure Holds (s : Sandbox) (p : Path) (place : Place) (bytes : ByteArray) : Prop where
  above : ∀ up more, p.above = up :: more → ∃ folder, s.tree.resolve up = .ok (folder, .folder)
  names : s.tree.Names p place
  file : s.tree.get? place = some (.file bytes)

/-- A file that is there can be read. -/
theorem Holds.readBytes {s : Sandbox} {p : Path} {place : Place} {bytes : ByteArray}
    (h : Holds s p place bytes) : s.tree.readBytes p = .ok bytes := by
  rw [Tree.readBytes, h.names.resolve h.file]

/-- A path to a file leads to its place. -/
theorem Holds.placeOf? {s : Sandbox} {p : Path} {place : Place} {bytes : ByteArray}
    (h : Holds s p place bytes) : s.tree.placeOf? p = some place :=
  placeOf?_of_resolve (h.names.resolve h.file)

/-- A file that is there stays there while the tree grows, perhaps with other contents. -/
theorem Holds.grows {s s' : Sandbox} {p : Path} {place : Place} {bytes : ByteArray}
    (h : Holds s p place bytes) (hgrows : Grows s.tree s'.tree) :
    ∃ bytes', Holds s' p place bytes' := by
  obtain ⟨bytes', hfile⟩ := hgrows.file place bytes h.file
  refine ⟨bytes', fun up more habove => ?_, hgrows.names h.names, hfile⟩
  obtain ⟨folder, hfolder⟩ := h.above up more habove
  exact ⟨folder, hgrows.resolve_folder hfolder⟩

/-- Writing below folders makes these first, and writes nothing when that fails. -/
theorem writeBelow_eq {p : Path} {contents : String} {s s' : Sandbox}
    {result : Except FileFault Unit} (h : host.writeBelow p contents s = (result, s')) :
    ∃ made s₁, host.makeFolders p.above s = (made, s₁) ∧
      ((∃ fault, made = .error fault ∧ result = .error fault ∧ s' = s₁) ∨
        made = .ok () ∧ attempt (·.writeBytes p contents.toUTF8) s₁ = (result, s')) := by
  unfold Host.writeBelow at h
  cases hfolders : host.makeFolders p.above s with
  | mk made s₁ =>
    refine ⟨made, s₁, rfl, ?_⟩
    rw [← Path.above, bind_apply hfolders] at h
    split at h
    · rename_i fault
      obtain ⟨hresult, hstate⟩ := Prod.mk.inj h
      exact Or.inl ⟨fault, rfl, hresult.symm, hstate.symm⟩
    · rw [writeText_apply] at h
      exact Or.inr ⟨rfl, h⟩

/-- A file that was written is set after its folders are made. -/
theorem writeBelow_eq_set {p : Path} {contents : String} {s s' : Sandbox}
    (h : host.writeBelow p contents s = (.ok (), s')) :
    ∃ place s₁, host.makeFolders p.above s = (.ok (), s₁) ∧ s₁.tree.Names p place ∧
      s₁.tree.get? place ≠ some .folder ∧
      s' = { s₁ with tree := s₁.tree.set place (.file contents.toUTF8) } := by
  obtain ⟨made, s₁, hfolders, ⟨_, _, hfault, _⟩ | ⟨rfl, hwrite⟩⟩ := writeBelow_eq h
  · cases hfault
  · rcases attempt_eq_iff.mp hwrite with ⟨_, tree, htree, rfl⟩ | ⟨fault, hfault, _⟩
    · obtain ⟨place, hnames, hfree, rfl⟩ := writeBytes_eq_ok_iff.mp htree
      exact ⟨place, s₁, hfolders, hnames, hfree, rfl⟩
    · cases hfault

/-- A file that was written below its folders is there, and nothing else has changed but them. -/
theorem writeBelow_eq_ok {p : Path} {contents : String} {s s' : Sandbox}
    (h : host.writeBelow p contents s = (.ok (), s')) :
    ∃ place, Holds s' p place contents.toUTF8 ∧ Alters s s' [p] p.above := by
  obtain ⟨place, s₁, hfolders, hnames, hfree, rfl⟩ := writeBelow_eq_set h
  have hgrows := grows_set_file hnames.ne_nil hfree contents.toUTF8
  have hholds : Holds { s₁ with tree := s₁.tree.set place (.file contents.toUTF8) } p place
      contents.toUTF8 := by
    refine ⟨fun up more habove => ?_, hgrows.names hnames, ?_⟩
    · have haccept := accept_above hnames.accept habove
      rw [habove] at hfolders
      obtain ⟨folder, hfolder⟩ := resolve_of_makeFolders haccept hfolders
      exact ⟨folder, hgrows.resolve_folder hfolder⟩
    · rw [get?_set _ hnames.ne_nil, if_pos rfl]
  refine ⟨place, hholds, ?_⟩
  have hwritten : Alters s₁ { s₁ with tree := s₁.tree.set place (.file contents.toUTF8) }
      [p] [] := by
    refine ⟨rfl, hgrows, fun other bytes hapart => ?_, fun other hother => Or.inl ?_⟩
    · have hne : other ≠ place := by
        rintro rfl
        exact hapart p (by simp) hholds.placeOf?
      simp only [get?_set _ hnames.ne_nil, if_neg hne]
    · simp only [get?_set _ hnames.ne_nil] at hother
      split at hother
      · cases hother
      · exact hother
  have hboth := (alters_makeFolders hfolders).trans hwritten
  rwa [List.nil_append, List.append_nil] at hboth

/-- Nothing is hidden behind a file that was written. -/
theorem slot_of_writeBelow {p : Path} {contents : String} {s s' : Sandbox} {place : Place}
    (h : host.writeBelow p contents s = (.ok (), s')) (hplace : s'.tree.placeOf? p = some place) :
    s'.tree.slot place = [(place, .file contents.toUTF8)] := by
  obtain ⟨here, s₁, _, hnames, hfree, rfl⟩ := writeBelow_eq_set h
  have hset : (s₁.tree.set here (.file contents.toUTF8)).get? here =
      some (.file contents.toUTF8) := by
    rw [get?_set _ hnames.ne_nil, if_pos rfl]
  have hnames' := (grows_set_file hnames.ne_nil hfree contents.toUTF8).names hnames
  obtain rfl := Option.some.inj ((placeOf?_of_resolve (hnames'.resolve hset)).symm.trans hplace)
  exact slot_set_self s₁.tree here _

/-- A file that could not be written has left no mark but folders above it. -/
theorem writeBelow_eq_error {p : Path} {contents : String} {s s' : Sandbox} {fault : FileFault}
    (h : host.writeBelow p contents s = (.error fault, s')) : Alters s s' [] p.above := by
  obtain ⟨made, s₁, hfolders, ⟨_, _, _, rfl⟩ | ⟨_, hwrite⟩⟩ := writeBelow_eq h
  · exact alters_makeFolders hfolders
  · rcases attempt_eq_iff.mp hwrite with ⟨hok, _⟩ | ⟨_, _, _, rfl⟩
    · cases hok
    · exact alters_makeFolders hfolders

/-- A file that is there is written again without fail, and nothing else is touched. -/
theorem Holds.writeBelow {s : Sandbox} {p : Path} {place : Place} {bytes : ByteArray}
    (h : Holds s p place bytes) (contents : String) :
    host.writeBelow p contents s =
      (.ok (), { s with tree := s.tree.set place (.file contents.toUTF8) }) := by
  have hfolders : host.makeFolders p.above s = (.ok (), s) := by
    cases habove : p.above with
    | nil => rfl
    | cons up more =>
      obtain ⟨folder, hfolder⟩ := h.above up more habove
      exact makeFolders_of_folder hfolder more
  have hwritten : s.tree.writeBytes p contents.toUTF8 =
      .ok (s.tree.set place (.file contents.toUTF8)) :=
    writeBytes_eq_ok_iff.mpr ⟨place, h.names, by simp [h.file], rfl⟩
  rw [Host.writeBelow, ← Path.above, bind_apply hfolders]
  change host.writeText p contents s = _
  rw [writeText_apply]
  exact attempt_eq_iff.mpr (Or.inl ⟨rfl, _, hwritten, rfl⟩)

section Setting

variable {P : Tree → Prop} (hset : ∀ t place e, P t → P (t.set place e)) {s s' : Sandbox}
  {result : Except FileFault Unit}

include hset

private theorem keeps_makeFolder {p : Path} (h : host.makeFolder p s = (result, s'))
    (hs : P s.tree) :
    P s'.tree := by
  rw [makeFolder_apply] at h
  rcases attempt_eq_iff.mp h with ⟨_, tree, htree, rfl⟩ | ⟨fault, _, _, rfl⟩
  · obtain ⟨place, _, _, rfl, _⟩ := makeFolder_eq_ok htree
    exact hset s.tree place .folder hs
  · exact hs

private theorem keeps_makeFolders {ps : List Path} (h : host.makeFolders ps s = (result, s'))
    (hs : P s.tree) : P s'.tree := by
  induction ps generalizing s s' result with
  | nil =>
    obtain ⟨_, rfl⟩ := Prod.mk.inj h
    exact hs
  | cons p above ih =>
    obtain ⟨first, s₁, hfirst, ⟨_, hsettle⟩ | ⟨_, rest, s₂, hrest, hend⟩⟩ := makeFolders_cons_eq h
    · obtain ⟨rfl, _⟩ := settle_eq hsettle
      exact keeps_makeFolder hset hfirst hs
    · have hbefore := ih hrest (keeps_makeFolder hset hfirst hs)
      rcases hend with ⟨_, _, _, rfl⟩ | ⟨_, second, s₃, hsecond, hsettle⟩
      · exact hbefore
      · obtain ⟨rfl, _⟩ := settle_eq hsettle
        exact keeps_makeFolder hset hsecond hbefore

/-- What holds of a tree whatever entry is set in it is kept by writing below folders, whether it
    succeeds or fails. -/
theorem keeps_writeBelow {p : Path} {contents : String}
    (h : host.writeBelow p contents s = (result, s')) (hs : P s.tree) : P s'.tree := by
  obtain ⟨made, s₁, hfolders, ⟨_, _, _, rfl⟩ | ⟨_, hwrite⟩⟩ := writeBelow_eq h
  · exact keeps_makeFolders hset hfolders hs
  · have hmade := keeps_makeFolders hset hfolders hs
    rcases attempt_eq_iff.mp hwrite with ⟨_, tree, htree, rfl⟩ | ⟨_, _, _, rfl⟩
    · obtain ⟨place, _, _, rfl⟩ := writeBytes_eq_ok_iff.mp htree
      exact hset s₁.tree place _ hmade
    · exact hmade

end Setting

end Sandbox

end AccessLayer
