import AccessLayer.Proofs.Text.Words

namespace AccessLayer

namespace Text

/-- A text without blanks. -/
def IsSolid (cs : List Char) : Prop := ∀ c ∈ cs, isBlank c = false

instance : DecidablePred IsSolid := fun cs =>
  decidable_of_iff (cs.all (!isBlank ·) = true) (by simp [IsSolid])

/-- A name holds no blank. -/
theorem IsName.isSolid {cs : List Char} (h : IsName cs) : IsSolid cs :=
  fun c hc => isBlank_eq_false_of_isWord (h.2 c hc)

/-- Texts without blanks hold none together. -/
theorem IsSolid.append {cs ds : List Char} (hc : IsSolid cs) (hd : IsSolid ds) :
    IsSolid (cs ++ ds) := by
  intro c hmem
  rcases List.mem_append.mp hmem with h | h
  · exact hc c h
  · exact hd c h

/-- Words hold no blank, since blanks part them. -/
theorem isSolid_of_mem_words {cs w : List Char} (h : w ∈ words cs) : IsSolid w :=
  fun _ hc => (mem_of_mem_pieces (List.mem_filter.mp h).1 hc).2

end Text

open Text

/-- The text stands on one line. -/
def IsInline (s : String) : Prop := '\n' ∉ s.toList

instance : DecidablePred IsInline := fun s => inferInstanceAs (Decidable ('\n' ∉ s.toList))

/-- Whether a literal stands on one line shows in its characters. -/
theorem notMem_ofList {c : Char} {cs : List Char} (h : c ∉ cs) : c ∉ (String.ofList cs).toList := by
  rwa [String.toList_ofList]

/-- A text without line breaks stands on one line. -/
theorem isInline_of_notMem {s : String} (h : '\n' ∉ s.toList) : IsInline s := h

/-- Texts stand on one line together where each of them does. -/
@[simp] theorem isInline_append (s t : String) : IsInline (s ++ t) ↔ IsInline s ∧ IsInline t := by
  simp [IsInline, not_or]

/-- A text without blanks stands on one line, since line breaks are blank. -/
theorem isInline_of_isSolid {s : String} (h : IsSolid s.toList) : IsInline s := by
  intro hmem
  exact absurd (h _ hmem) (by decide)

/-- What is in neither the texts nor the text between them is not in the texts joined. -/
theorem notMem_intercalate {c : Char} {sep : String} {ss : List String} (hsep : c ∉ sep.toList)
    (h : ∀ s ∈ ss, c ∉ s.toList) : c ∉ (sep.intercalate ss).toList := by
  induction ss with
  | nil => simp
  | cons s ss ih =>
    have hrest := ih fun t ht => h t (by simp [ht])
    cases ss with
    | nil =>
      rw [String.intercalate_singleton]
      exact h s (by simp)
    | cons t ss =>
      simp only [String.intercalate_cons_cons, String.toList_append, List.mem_append, not_or]
      exact ⟨⟨h s (by simp), hsep⟩, hrest⟩

/-- Texts that are joined stand on one line where they and what joins them do. -/
theorem isInline_intercalate {sep : String} {ss : List String} (hsep : IsInline sep)
    (h : ∀ s ∈ ss, IsInline s) : IsInline (sep.intercalate ss) :=
  notMem_intercalate hsep h

/-- A number stands on one line. -/
theorem isInline_repr (n : Nat) : IsInline n.repr := by
  intro hmem
  rw [Nat.toList_repr] at hmem
  exact absurd (Nat.isDigit_of_mem_toDigits (by decide) (by decide) hmem) (by decide)

end AccessLayer
