import AccessLayer.Text.Blank
import AccessLayer.Text.Case
import AccessLayer.Text.Word
import Mathlib.Data.List.DropRight
import Mathlib.Tactic.Common

namespace AccessLayer.Text

/-- A text of blanks only, possibly empty. -/
def IsGap (cs : List Char) : Prop := ∀ c ∈ cs, isBlank c = true

/-- The text does not start with a blank. The empty text qualifies. -/
def StartsSolid (cs : List Char) : Prop := cs.dropWhile isBlank = cs

/-- A non-empty text of word characters. -/
def IsName (cs : List Char) : Prop := cs ≠ [] ∧ ∀ c ∈ cs, isWord c = true

instance : DecidablePred IsGap := fun cs => List.decidableBAll (fun c => isBlank c = true) cs

instance : DecidablePred IsName := fun cs =>
  have : Decidable (∀ c ∈ cs, isWord c = true) := List.decidableBAll (fun c => isWord c = true) cs
  inferInstanceAs (Decidable (cs ≠ [] ∧ ∀ c ∈ cs, isWord c = true))

/-- Nothing at all is a gap. -/
theorem IsGap.nil : IsGap [] := by simp [IsGap]

/-- Gaps in a row are a gap. -/
theorem IsGap.append {cs ds : List Char} (hc : IsGap cs) (hd : IsGap ds) : IsGap (cs ++ ds) := by
  intro c hmem
  rcases List.mem_append.mp hmem with h | h
  · exact hc c h
  · exact hd c h

/-- What is no blank stands in no gap. -/
theorem IsGap.not_mem {gap : List Char} (h : IsGap gap) {c : Char} (hc : isBlank c = false) :
    c ∉ gap := by
  intro hmem
  rw [h c hmem] at hc
  cases hc

/-- What is no word character stands in no name. -/
theorem IsName.not_mem {name : List Char} (h : IsName name) {c : Char} (hc : isWord c = false) :
    c ∉ name := by
  intro hmem
  rw [h.2 c hmem] at hc
  cases hc

instance : DecidablePred StartsSolid := fun cs =>
  inferInstanceAs (Decidable (cs.dropWhile isBlank = cs))

/-- A text that begins with no blank. -/
theorem StartsSolid.cons {c : Char} (h : isBlank c = false) (cs : List Char) :
    StartsSolid (c :: cs) := by
  simp [StartsSolid, h]

/-- How a text begins is not changed by what stands behind it. -/
theorem StartsSolid.append {cs : List Char} (h : StartsSolid cs) (hne : cs ≠ [])
    (more : List Char) : StartsSolid (cs ++ more) := by
  cases cs with
  | nil => exact absurd rfl hne
  | cons c cs =>
    have hc : isBlank c = false := by
      by_contra hblank
      have hlength := congrArg List.length h
      simp only [Bool.not_eq_false] at hblank
      simp only [List.dropWhile_cons, hblank, if_true, List.length_cons] at hlength
      have hle := (List.dropWhile_sublist (l := cs) isBlank).length_le
      omega
    exact StartsSolid.cons hc _

/-- Dropping blanks drops a gap and stops at what begins with none. -/
theorem dropWhile_gap {gap cs : List Char} (hgap : IsGap gap) (hcs : StartsSolid cs) :
    (gap ++ cs).dropWhile isBlank = cs := by
  rw [List.dropWhile_append_of_pos hgap]
  exact hcs

/-- What is left when blanks are dropped begins with none. -/
theorem startsSolid_dropWhile (cs : List Char) : StartsSolid (cs.dropWhile isBlank) :=
  List.dropWhile_idempotent isBlank cs

/-- The blanks at the front of a text are a gap. -/
theorem isGap_takeWhile (cs : List Char) : IsGap (cs.takeWhile isBlank) := by
  intro c hmem
  exact List.mem_takeWhile_imp hmem

/-- Every text is a gap and a rest that starts with no blank. -/
theorem exists_gap (cs : List Char) :
    ∃ gap, IsGap gap ∧ cs = gap ++ cs.dropWhile isBlank :=
  ⟨cs.takeWhile isBlank, isGap_takeWhile cs, (List.takeWhile_append_dropWhile).symm⟩

/-- What a gap hides is not changed by text behind something that is no blank. -/
theorem dropWhile_append_of_solid {cs : List Char} (h : ∃ c ∈ cs, isBlank c = false)
    (more : List Char) : (cs ++ more).dropWhile isBlank = cs.dropWhile isBlank ++ more := by
  obtain ⟨c, hmem, hc⟩ := h
  rw [List.dropWhile_append, if_neg]
  rw [List.isEmpty_iff, List.dropWhile_eq_nil_iff]
  intro hall
  rw [hall c hmem] at hc
  cases hc

private theorem wordSpans_blankSpans_apart :
    (wordSpans.all fun s => blankSpans.all fun t => s.2 < t.1 || t.2 < s.1) = true := by
  decide +kernel

/-- What holds of the first 128 characters holds of every character in ASCII. -/
theorem forall_ascii {p : Char → Prop} (h : ∀ n : Fin 128, p (Char.ofNat n)) :
    ∀ c : Char, c.toNat < 128 → p c := by
  intro c hc
  have hchar := h ⟨c.toNat, hc⟩
  rwa [Char.ofNat_toNat] at hchar

set_option maxRecDepth 4000 in
private theorem ascii_word_not_blank : ∀ c : Char, c.toNat < 128 →
    (c.isAlphanum || c == '_') = true → isBlank c = false :=
  forall_ascii (by decide)

/-- No word character is blank, so a name ends where a gap begins. -/
theorem isBlank_eq_false_of_isWord {c : Char} (h : isWord c = true) : isBlank c = false := by
  unfold isWord at h
  split at h
  · rename_i hascii
    exact ascii_word_not_blank c hascii h
  · by_contra hblank
    rw [Bool.not_eq_false] at hblank
    obtain ⟨s, hs, hlo, hhi⟩ := (inSpans_eq_true_iff _ _).mp h
    obtain ⟨t, ht, hlo', hhi'⟩ := (inSpans_eq_true_iff _ _).mp hblank
    have hapart := List.all_eq_true.mp wordSpans_blankSpans_apart s hs
    have hpair := List.all_eq_true.mp hapart t ht
    simp only [Bool.or_eq_true, decide_eq_true_eq] at hpair
    omega

/-- No blank is a word character. -/
theorem isWord_eq_false_of_isBlank {c : Char} (h : isBlank c = true) : isWord c = false := by
  by_contra hword
  rw [Bool.not_eq_false] at hword
  rw [isBlank_eq_false_of_isWord hword] at h
  cases h

/-- A name begins with no blank. -/
theorem IsName.startsSolid {name : List Char} (h : IsName name) (more : List Char) :
    StartsSolid (name ++ more) := by
  obtain ⟨hne, hword⟩ := h
  cases name with
  | nil => exact absurd rfl hne
  | cons c cs => exact StartsSolid.cons (isBlank_eq_false_of_isWord (hword c (by simp))) _

/-- A name is read up to the first character that is no word character. -/
theorem takeWhile_name {name more : List Char} (h : IsName name)
    (hmore : more.takeWhile isWord = []) : (name ++ more).takeWhile isWord = name := by
  rw [List.takeWhile_append_of_pos h.2, hmore, List.append_nil]

/-- A name is dropped whole where no word character follows it. -/
theorem dropWhile_name {name more : List Char} (h : IsName name)
    (hmore : more.dropWhile isWord = more) : (name ++ more).dropWhile isWord = more := by
  rw [List.dropWhile_append_of_pos h.2, hmore]

/-- Blanks have no case. -/
theorem toUpper_of_isBlank {c : Char} (h : isBlank c = true) : c.toUpper = c := by
  obtain ⟨s, hs, hlo, hhi⟩ := (inSpans_eq_true_iff _ _).mp h
  have hupper : c.toNat < 97 ∨ 122 < c.toNat := by
    simp only [blankSpans, List.mem_cons, List.not_mem_nil, or_false] at hs
    rcases hs with rfl | rfl | rfl | rfl | rfl | rfl | rfl | rfl | rfl | rfl <;> simp at hlo hhi <;>
      omega
  unfold Char.toUpper
  rw [dif_neg]
  simp only [Char.toNat] at hupper
  rintro ⟨hge, hle⟩
  simp only [UInt32.le_iff_toNat_le] at hge hle
  change 97 ≤ _ at hge
  change _ ≤ 122 at hle
  omega

/-- A character that has no upper case form keeps its place when a text is put in upper case. -/
theorem mem_upperAscii {c : Char} {cs : List Char} (hc : c.toUpper = c) (hmem : c ∈ cs) :
    c ∈ upperAscii cs := by
  rw [← hc]
  exact List.mem_map_of_mem hmem

/-- A word in any case is as free of blanks as its upper case. -/
theorem not_blank_of_upperAscii {cs ws : List Char} (h : upperAscii cs = ws)
    (hws : ∀ c ∈ ws, isBlank c = false) : ∀ c ∈ cs, isBlank c = false := by
  intro c hmem
  by_contra hblank
  rw [Bool.not_eq_false] at hblank
  have hsolid := hws c (h ▸ mem_upperAscii (toUpper_of_isBlank hblank) hmem)
  rw [hblank] at hsolid
  cases hsolid

end AccessLayer.Text
