import Mathlib.Data.Set.Function
import Mathlib.Tactic.Common

namespace AccessLayer

variable {α β γ : Type}

/-- What satisfies `p` can be read back from its code word before a rest that satisfies `stop`, and
    the rest with it. -/
def ReadsBack (p : α → Prop) (stop : List β → Prop) (code : α → List β) : Prop :=
  ∀ ⦃a b x y⦄, p a → p b → stop x → stop y → code a ++ x = code b ++ y → a = b ∧ x = y

namespace ReadsBack

variable {p : α → Prop} {q : γ → Prop} {stop inner : List β → Prop} {code : α → List β}

/-- A code has unique words if there is a reader for it, which gives back each word and what stands
    behind it. -/
theorem of_reader (read : List β → Option (α × List β))
    (hread : ∀ a x, p a → stop x → read (code a ++ x) = some (a, x)) : ReadsBack p stop code := by
  intro a b x y ha hb hx hy h
  have hsame := congrArg read h
  rw [hread a x ha hx, hread b y hb hy] at hsame
  exact Prod.mk.inj (Option.some.inj hsame)

/-- Words of one length end where they must. -/
theorem of_length {n : ℕ} (hlength : ∀ a, p a → (code a).length = n)
    (hinj : ∀ a b, p a → p b → code a = code b → a = b) : ReadsBack p stop code := by
  intro a b x y ha hb _ _ h
  obtain ⟨hcode, hrest⟩ := List.append_inj h ((hlength a ha).trans (hlength b hb).symm)
  exact ⟨hinj a b ha hb hcode, hrest⟩

/-- Words that are the only ones in their text determine what they stand for. -/
theorem injOn (h : ReadsBack p stop code) (hstop : stop []) : Set.InjOn code {a | p a} :=
  fun _ ha _ hb hcode => (h ha hb hstop hstop (congrArg (· ++ []) hcode)).1

/-- Codes of what determines something are codes of it. -/
theorem comp {f : γ → α} (h : ReadsBack p stop code) (hf : Set.InjOn f {c | q c})
    (hp : ∀ c, q c → p (f c)) : ReadsBack q stop fun c => code (f c) := by
  intro a b x y ha hb hx hy hcode
  obtain ⟨hsame, hrest⟩ := h (hp a ha) (hp b hb) hx hy hcode
  exact ⟨hf ha hb hsame, hrest⟩

/-- What stands around every word alike may show where it ends. -/
theorem framed (before after : List β) (h : ReadsBack p inner code)
    (hinner : ∀ x, stop x → inner (after ++ x)) :
    ReadsBack p stop fun a => before ++ (code a ++ after) := by
  intro a b x y ha hb hx hy hcode
  simp only [List.append_assoc] at hcode
  obtain ⟨hsame, hrest⟩ :=
    h ha hb (hinner x hx) (hinner y hy) (List.append_cancel_left hcode)
  exact ⟨hsame, List.append_cancel_left hrest⟩

/-- One word behind another is read back if what is behind may end the first. -/
theorem prod {code' : γ → List β} (h : ReadsBack p inner code) (h' : ReadsBack q stop code')
    (hinner : ∀ c x, q c → stop x → inner (code' c ++ x)) :
    ReadsBack (fun e : α × γ => p e.1 ∧ q e.2) stop fun e => code e.1 ++ code' e.2 := by
  rintro ⟨a, c⟩ ⟨b, d⟩ x y ⟨ha, hc⟩ ⟨hb, hd⟩ hx hy hcode
  rw [List.append_assoc, List.append_assoc] at hcode
  obtain ⟨rfl, hrest⟩ := h ha hb (hinner c x hc hx) (hinner d y hd hy) hcode
  obtain ⟨rfl, rfl⟩ := h' hc hd hx hy hrest
  exact ⟨rfl, rfl⟩

/-- One word after the other is read back, as far as no word looks like the end of them. -/
theorem flatMap (h : ReadsBack p inner code) (hstop : ∀ x, stop x → inner x)
    (hmore : ∀ a x, p a → inner (code a ++ x)) (hend : ∀ a x, p a → ¬ stop (code a ++ x)) :
    ReadsBack (fun as : List α => ∀ a ∈ as, p a) stop (List.flatMap code) := by
  have hinner {as : List α} (has : ∀ a ∈ as, p a) {x : List β} (hx : stop x) :
      inner (as.flatMap code ++ x) := by
    cases as with
    | nil => exact hstop x hx
    | cons a as =>
      rw [List.flatMap_cons, List.append_assoc]
      exact hmore a _ (has a (by simp))
  intro as
  induction as with
  | nil =>
    intro bs x y _ hbs hx _ hcode
    cases bs with
    | nil => exact ⟨rfl, hcode⟩
    | cons b bs =>
      rw [List.flatMap_nil, List.nil_append, List.flatMap_cons, List.append_assoc] at hcode
      exact absurd (hcode ▸ hx) (hend b _ (hbs b (by simp)))
  | cons a as ih =>
    intro bs x y has hbs hx hy hcode
    cases bs with
    | nil =>
      rw [List.flatMap_nil, List.nil_append, List.flatMap_cons, List.append_assoc] at hcode
      exact absurd (hcode ▸ hy) (hend a _ (has a (by simp)))
    | cons b bs =>
      have has' : ∀ c ∈ as, p c := fun c hc => has c (by simp [hc])
      have hbs' : ∀ c ∈ bs, p c := fun c hc => hbs c (by simp [hc])
      rw [List.flatMap_cons, List.flatMap_cons, List.append_assoc, List.append_assoc] at hcode
      obtain ⟨rfl, hrest⟩ :=
        h (has a (by simp)) (hbs b (by simp)) (hinner has' hx) (hinner hbs' hy) hcode
      obtain ⟨rfl, rfl⟩ := ih has' hbs' hx hy hrest
      exact ⟨rfl, rfl⟩

private theorem intercalate_cons (sep word : List β) (words : List (List β)) :
    sep.intercalate (word :: words) = word ++ words.flatMap (sep ++ ·) := by
  induction words generalizing word with
  | nil => simp
  | cons next words ih =>
    rw [List.intercalate_cons_cons, ih, List.flatMap_cons, List.append_assoc, List.append_assoc]

/-- Words with a separator between them are read back, as far as the separator does not look like
    the end of them. -/
theorem intercalate {sep : List β} (h : ReadsBack p inner code)
    (hstop : ∀ x, stop x → inner x) (hmore : ∀ x, inner (sep ++ x))
    (hend : ∀ x, ¬ stop (sep ++ x)) :
    ReadsBack (fun as : List α => as ≠ [] ∧ ∀ a ∈ as, p a) stop
      fun as => sep.intercalate (as.map code) := by
  have hlater : ReadsBack p inner fun a => sep ++ code a := by
    simpa using h.framed sep [] fun x hx => hx
  have hothers := hlater.flatMap hstop
    (fun a x _ => by rw [List.append_assoc]; exact hmore _)
    fun a x _ => by rw [List.append_assoc]; exact hend _
  have hinner {as : List α} {x : List β} (hx : stop x) :
      inner (as.flatMap (fun a => sep ++ code a) ++ x) := by
    cases as with
    | nil => exact hstop x hx
    | cons a as =>
      rw [List.flatMap_cons, List.append_assoc, List.append_assoc]
      exact hmore _
  rintro (_ | ⟨a, as⟩) (_ | ⟨b, bs⟩) x y ⟨has, hpas⟩ ⟨hbs, hpbs⟩ hx hy hcode
  · exact absurd rfl has
  · exact absurd rfl has
  · exact absurd rfl hbs
  · simp only [List.map_cons, intercalate_cons, List.flatMap_map, List.append_assoc] at hcode
    obtain ⟨rfl, hrest⟩ := h (hpas a (by simp)) (hpbs b (by simp)) (hinner hx) (hinner hy) hcode
    obtain ⟨rfl, rfl⟩ := hothers (fun c hc => hpas c (by simp [hc]))
      (fun c hc => hpbs c (by simp [hc])) hx hy hrest
    exact ⟨rfl, rfl⟩

end ReadsBack

end AccessLayer
