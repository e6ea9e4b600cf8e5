import AccessLayer.Proofs.Files.Effect

namespace AccessLayer

/-- How a state is seen: the tree that it holds, and how an action on files may change what else it
    holds. -/
structure View (σ : Type) where
  tree : σ → Tree
  Keeps : σ → σ → Prop
  refl : ∀ s, Keeps s s
  trans : ∀ {s s' s'' : σ}, Keeps s s' → Keeps s' s'' → Keeps s s''

namespace View

variable {σ α β : Type} (v : View σ)

/-- The action does to the tree what `y` does to it in a sandbox, whether or not the flag is raised
    there. -/
def Mirrors (x : StateM σ α) (y : StateM Sandbox α) : Prop :=
  ∀ s s' a, x s = (a, s') →
    (∀ flag, y ⟨v.tree s, flag⟩ = (a, ⟨v.tree s', flag⟩)) ∧ v.Keeps s s'

/-- An action that does nothing is mirrored by one that does nothing. -/
theorem mirrors_pure (a : α) : v.Mirrors (pure a) (pure a) := by
  intro s s' b h
  obtain ⟨rfl, rfl⟩ := Prod.mk.inj h
  exact ⟨fun _ => rfl, v.refl s⟩

variable {v}

/-- Actions that are mirrored one by one are mirrored one after the other, if the second is for
    whatever the first comes to. -/
theorem Mirrors.bind {x : StateM σ α} {y : StateM Sandbox α} {f : α → StateM σ β}
    {g : α → StateM Sandbox β} (hx : v.Mirrors x y) (hf : ∀ a, v.Mirrors (f a) (g a)) :
    v.Mirrors (x >>= f) (y >>= g) := by
  intro s s' b h
  cases hfirst : x s with
  | mk a s₁ =>
    rw [Sandbox.bind_apply hfirst] at h
    obtain ⟨hy, hkeeps⟩ := hx s s₁ a hfirst
    obtain ⟨hg, hkeeps'⟩ := hf a s₁ s' b h
    refine ⟨fun flag => ?_, v.trans hkeeps hkeeps'⟩
    rw [Sandbox.bind_apply (hy flag)]
    exact hg flag

end View

/-- The file operations of the host are those of a sandbox, seen through the view, and its flag is
    no part of the tree. -/
structure Host.Serves {σ : Type} (h : Host (StateM σ)) (v : View σ) : Prop where
  entry? : ∀ p, v.Mirrors (h.entry? p) (Sandbox.host.entry? p)
  readText : ∀ p, v.Mirrors (h.readText p) (Sandbox.host.readText p)
  makeFolder : ∀ p, v.Mirrors (h.makeFolder p) (Sandbox.host.makeFolder p)
  writeText : ∀ p contents, v.Mirrors (h.writeText p contents) (Sandbox.host.writeText p contents)
  isCancelled : ∀ s, v.tree (h.isCancelled s).2 = v.tree s
  cancel : ∀ s, v.tree (h.cancel s).2 = v.tree s

namespace Host.Serves

variable {σ : Type} {h : Host (StateM σ)} {v : View σ}

/-- What a host that serves a tree says of a file is what a sandbox says of it. -/
theorem isFile (hs : h.Serves v) (p : Path) :
    v.Mirrors (h.isFile p) (Sandbox.host.isFile p) :=
  (hs.entry? p).bind fun found => v.mirrors_pure (found == some .file)

/-- Folders that are there already count as made, as in a sandbox. -/
theorem settle (hs : h.Serves v) (p : Path) (made : Except FileFault Unit) :
    v.Mirrors (h.settle p made) (Sandbox.host.settle p made) := by
  unfold Host.settle
  split
  · exact (hs.entry? p).bind fun found => v.mirrors_pure _
  · exact v.mirrors_pure made

/-- Making folders on such a host does to its tree what it does in a sandbox. -/
theorem makeFolders (hs : h.Serves v) (ps : List Path) :
    v.Mirrors (h.makeFolders ps) (Sandbox.host.makeFolders ps) := by
  induction ps with
  | nil => exact v.mirrors_pure (Except.ok ())
  | cons p above ih =>
    unfold Host.makeFolders
    refine (hs.makeFolder p).bind fun first => ?_
    split
    · refine ih.bind fun rest => ?_
      split
      · exact v.mirrors_pure _
      · exact (hs.makeFolder p).bind fun second => hs.settle p second
    · exact hs.settle p first

/-- Writing below folders on such a host does to its tree what it does in a sandbox, so whatever is
    known of runs in sandboxes is known of runs on it. -/
theorem writeBelow (hs : h.Serves v) (p : Path) (contents : String) :
    v.Mirrors (h.writeBelow p contents) (Sandbox.host.writeBelow p contents) := by
  unfold Host.writeBelow
  refine (hs.makeFolders _).bind fun made => ?_
  split
  · exact v.mirrors_pure _
  · exact hs.writeText p contents

end Host.Serves

/-- A sandbox is seen as what it is; an action on files leaves its flag alone. -/
def Sandbox.view : View Sandbox where
  tree s := s.tree
  Keeps s s' := s'.cancelled = s.cancelled
  refl _ := rfl
  trans h h' := h'.trans h

private theorem mirrors_attempt (op : Tree → Except FileFault Tree) :
    Sandbox.view.Mirrors (Sandbox.attempt op) (Sandbox.attempt op) := by
  intro s s' result h
  rcases Sandbox.attempt_eq_iff.mp h with ⟨rfl, tree, htree, rfl⟩ | ⟨fault, rfl, hfault, rfl⟩
  · exact ⟨fun _ => Sandbox.attempt_eq_iff.mpr (Or.inl ⟨rfl, tree, htree, rfl⟩), rfl⟩
  · exact ⟨fun _ => Sandbox.attempt_eq_iff.mpr (Or.inr ⟨fault, rfl, hfault, rfl⟩), rfl⟩

private theorem mirrors_look {α : Type} (look : Tree → α) :
    Sandbox.view.Mirrors (fun s => (look s.tree, s)) (fun s => (look s.tree, s)) := by
  intro s s' a h
  obtain ⟨rfl, rfl⟩ := Prod.mk.inj h
  exact ⟨fun _ => rfl, rfl⟩

/-- A sandbox serves its own tree. -/
theorem Sandbox.serves_view : Sandbox.host.Serves Sandbox.view where
  entry? p := mirrors_look fun t => t.entry? p
  readText p := mirrors_look fun t => t.readText p
  makeFolder p := by
    simp only [Sandbox.host]
    exact mirrors_attempt (·.makeFolder p)
  writeText p contents := by
    simp only [Sandbox.host]
    exact mirrors_attempt (·.writeBytes p contents.toUTF8)
  isCancelled _ := rfl
  cancel _ := rfl

end AccessLayer
