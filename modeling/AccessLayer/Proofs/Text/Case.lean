import AccessLayer.Proofs.Text.Inline

namespace AccessLayer.Text

/-- The case table `long` and the runs lead to no character of some spans. -/
structure Avoids (long : List (Nat × List Nat)) (runs : List Run) (spans : List Span) : Prop where
  long : ∀ e ∈ long, ∀ n ∈ e.2, inSpans spans (Char.ofNat n) = false
  runs : ∀ r ∈ runs, ∀ s ∈ spans,
    (r.last : Int) + r.offset < s.1 ∨ (s.2 : Int) < r.first + r.offset
  zero : ∀ s ∈ spans, 0 < s.1

instance (long : List (Nat × List Nat)) (runs : List Run) (spans : List Span) :
    Decidable (Avoids long runs spans) :=
  decidable_of_iff
    ((∀ e ∈ long, ∀ n ∈ e.2, inSpans spans (Char.ofNat n) = false) ∧
      (∀ r ∈ runs, ∀ s ∈ spans,
        (r.last : Int) + r.offset < s.1 ∨ (s.2 : Int) < r.first + r.offset) ∧
      ∀ s ∈ spans, 0 < s.1)
    ⟨fun h => ⟨h.1, h.2.1, h.2.2⟩, fun h => ⟨h.long, h.runs, h.zero⟩⟩

/-- Tables avoid each of the spans that they avoid together. -/
theorem Avoids.of_subset {long : List (Nat × List Nat)} {runs : List Run} {spans fewer : List Span}
    (h : Avoids long runs spans) (hfewer : fewer ⊆ spans) : Avoids long runs fewer where
  long e he n hn := by
    by_contra hin
    rw [Bool.not_eq_false, inSpans_eq_true_iff] at hin
    obtain ⟨s, hs, hbounds⟩ := hin
    have hout := h.long e he n hn
    rw [(inSpans_eq_true_iff _ _).mpr ⟨s, hfewer hs, hbounds⟩] at hout
    cases hout
  runs r hr s hs := h.runs r hr s (hfewer hs)
  zero s hs := h.zero s (hfewer hs)

private theorem toNat_ofNat (n : Nat) : (Char.ofNat n).toNat = n ∨ (Char.ofNat n).toNat = 0 := by
  by_cases h : n.isValidChar
  · rw [Char.ofNat, dif_pos h]
    exact Or.inl rfl
  · rw [Char.ofNat, dif_neg h]
    exact Or.inr rfl

/-- Mapping leads into no spans that the tables avoid, unless the character is in them already. Each
    table is gone through once, for all the spans that are asked about. -/
theorem inSpans_mapCase {long : List (Nat × List Nat)} {runs : List Run} {spans : List Span}
    (h : Avoids long runs spans) {c : Char} (hc : inSpans spans c = false) :
    ∀ d ∈ mapCase long runs c, inSpans spans d = false := by
  intro d hd
  unfold mapCase at hd
  split at hd
  · rename_i ns hlookup
    obtain ⟨n, hn, rfl⟩ := List.mem_map.mp hd
    obtain ⟨before, after, hlong, -⟩ := List.lookup_eq_some_iff.mp hlookup
    exact h.long (c.toNat, ns) (by simp [hlong]) n hn
  · cases hrun : runs.findSome? (·.image? c.toNat) with
    | none =>
      rw [hrun] at hd
      obtain rfl : d = c := by simpa using hd
      exact hc
    | some m =>
      rw [hrun] at hd
      obtain rfl : d = Char.ofNat m := by simpa using hd
      obtain ⟨r, hr, himage⟩ := List.exists_of_findSome?_eq_some hrun
      obtain ⟨⟨hfirst, hlast, -⟩, rfl⟩ : (r.first ≤ c.toNat ∧ c.toNat ≤ r.last ∧
          (c.toNat - r.first) % r.step = 0) ∧ (c.toNat + r.offset).toNat = m := by
        simpa [Run.image?] using himage
      by_contra hin
      rw [Bool.not_eq_false, inSpans_eq_true_iff] at hin
      obtain ⟨s, hs, hlo, hhi⟩ := hin
      have hzero := h.zero s hs
      have hruns := h.runs r hr s hs
      rcases toNat_ofNat (c.toNat + r.offset).toNat with heq | heq <;> omega

private theorem inSpans_caseChar {long : List (Nat × List Nat)} {runs : List Run}
    {spans : List Span} (h : Avoids long runs spans) {ascii : Char → Char} {c : Char}
    (hascii : c.toNat < 128 → inSpans spans (ascii c) = false)
    (hlarge : ¬ c.toNat < 128 → inSpans spans c = false) :
    ∀ d ∈ (if c.toNat < 128 then [ascii c] else mapCase long runs c), inSpans spans d = false := by
  split
  · rename_i hsmall
    simpa using hascii hsmall
  · rename_i hbig
    exact inSpans_mapCase h (hlarge hbig)

/-- The code point of the space. -/
def spaceSpans : List Span := [(0x20, 0x20)]

/-- The code points of the ASCII capitals. -/
def capitalSpans : List Span := [(0x41, 0x5a)]

/-- The code points of the small ASCII letters. -/
def smallSpans : List Span := [(0x61, 0x7a)]

set_option maxRecDepth 4000 in
private theorem ascii_case : ∀ c : Char, c.toNat < 128 →
    (inSpans blankSpans c = false →
      inSpans blankSpans c.toUpper = false ∧ inSpans blankSpans c.toLower = false) ∧
    (inSpans spaceSpans c = false →
      inSpans spaceSpans c.toUpper = false ∧ inSpans spaceSpans c.toLower = false) ∧
    inSpans smallSpans c.toUpper = false ∧ inSpans capitalSpans c.toLower = false :=
  forall_ascii (by decide)

private theorem upper_avoids : Avoids upperLong upperRuns (blankSpans ++ smallSpans) := by
  decide +kernel

private theorem lower_avoids : Avoids lowerLong lowerRuns (blankSpans ++ capitalSpans) := by
  decide +kernel

private theorem forall_mem_lowerAfter {p : Char → Prop} (hsigma : p 'σ' ∧ p 'ς') {cs : List Char}
    (h : ∀ c ∈ cs, ∀ d ∈ lowerChar c, p d) (before : List Char) :
    ∀ d ∈ lowerAfter before cs, p d := by
  induction cs generalizing before with
  | nil => simp [lowerAfter]
  | cons c cs ih =>
    intro d hd
    rw [lowerAfter] at hd
    rcases List.mem_append.mp hd with hfirst | hrest
    · split at hfirst
      · split at hfirst
        · rw [List.mem_singleton.mp hfirst]
          exact hsigma.2
        · rw [List.mem_singleton.mp hfirst]
          exact hsigma.1
      · exact h c (by simp) d hfirst
    · exact ih (fun e he => h e (by simp [he])) (c :: before) d hrest

private theorem inSpans_capitalize {spans : List Span} (hupper : Avoids upperLong upperRuns spans)
    (hlower : Avoids lowerLong lowerRuns spans)
    (hascii : ∀ c : Char, c.toNat < 128 → inSpans spans c = false →
      inSpans spans c.toUpper = false ∧ inSpans spans c.toLower = false)
    (hsigma : inSpans spans 'σ' = false ∧ inSpans spans 'ς' = false) {cs : List Char}
    (h : ∀ c ∈ cs, inSpans spans c = false) : ∀ d ∈ capitalize cs, inSpans spans d = false := by
  cases cs with
  | nil => exact h
  | cons c cs =>
    have hc := h c (by simp)
    have hlowered : ∀ d ∈ lower cs, inSpans spans d = false := by
      refine forall_mem_lowerAfter hsigma (fun e he => ?_) []
      have houtside := h e (by simp [he])
      exact inSpans_caseChar hlower (fun hsmall => (hascii e hsmall houtside).2) fun _ => houtside
    intro d hd
    rcases List.mem_append.mp hd with hfirst | hrest
    · exact inSpans_caseChar hupper (fun hsmall => (hascii c hsmall hc).1) (fun _ => hc) d hfirst
    · exact hlowered d hrest

/-- Capitalizing brings no blank into a word. -/
theorem IsSolid.capitalize {cs : List Char} (h : IsSolid cs) : IsSolid (capitalize cs) :=
  inSpans_capitalize (upper_avoids.of_subset (List.subset_append_left _ _))
    (lower_avoids.of_subset (List.subset_append_left _ _)) (fun c hc => (ascii_case c hc).1)
    ⟨by decide, by decide⟩ h

private theorem inSpans_spaceSpans (c : Char) : inSpans spaceSpans c = false ↔ c ≠ ' ' := by
  rw [← Bool.not_eq_true, inSpans_eq_true_iff, not_iff_not]
  constructor
  · rintro ⟨s, hs, hlo, hhi⟩
    obtain rfl : s = (0x20, 0x20) := by simpa [spaceSpans] using hs
    exact Char.toNat_inj.mp (Nat.le_antisymm hhi hlo)
  · rintro rfl
    exact ⟨(0x20, 0x20), by decide, by decide, by decide⟩

/-- Other blanks may stand in the word: none of them becomes a space. -/
theorem space_notMem_capitalize {cs : List Char} (h : ' ' ∉ cs) : ' ' ∉ capitalize cs := by
  have houtside : ∀ c ∈ cs, inSpans spaceSpans c = false := fun c hc =>
    (inSpans_spaceSpans c).mpr fun hspace => h (hspace ▸ hc)
  have hblank : spaceSpans ⊆ blankSpans := by decide
  intro hmem
  have hspared := inSpans_capitalize
    (upper_avoids.of_subset (List.subset_append_of_subset_left _ hblank))
    (lower_avoids.of_subset (List.subset_append_of_subset_left _ hblank))
    (fun c hc => (ascii_case c hc).2.1) ⟨by decide, by decide⟩ houtside ' ' hmem
  exact (inSpans_spaceSpans ' ').mp hspared rfl

private theorem inSpans_of_large {spans : List Span} (hspans : ∀ s ∈ spans, s.2 < 128) {c : Char}
    (hlarge : ¬ c.toNat < 128) : inSpans spans c = false := by
  by_contra hin
  rw [Bool.not_eq_false, inSpans_eq_true_iff] at hin
  obtain ⟨s, hs, -, hhi⟩ := hin
  have hsmall := hspans s hs
  omega

/-- No ASCII capital is left in lower case. -/
theorem no_capital_lower {cs : List Char} : ∀ d ∈ lower cs, inSpans capitalSpans d = false :=
  forall_mem_lowerAfter ⟨by decide, by decide⟩
    (fun c _ => inSpans_caseChar (lower_avoids.of_subset (List.subset_append_right _ _))
      (fun hc => (ascii_case c hc).2.2.2) (inSpans_of_large (by decide))) []

/-- No small ASCII letter is left in upper case. -/
theorem no_small_upperChar (c : Char) : ∀ d ∈ upperChar c, inSpans smallSpans d = false :=
  inSpans_caseChar (upper_avoids.of_subset (List.subset_append_right _ _))
    (fun hc => (ascii_case c hc).2.2.1) (inSpans_of_large (by decide))

set_option maxRecDepth 4000 in
private theorem upperLong_solid : ∀ e ∈ upperLong, e.2 ≠ [] := by decide

/-- No character is lost in upper case. -/
theorem upperChar_ne_nil (c : Char) : upperChar c ≠ [] := by
  unfold upperChar mapCase
  split
  · exact List.cons_ne_nil _ _
  · split
    · rename_i ns hlookup
      obtain ⟨before, after, hlong, -⟩ := List.lookup_eq_some_iff.mp hlookup
      have hne := upperLong_solid (c.toNat, ns) (by simp [hlong])
      exact mt List.map_eq_nil_iff.mp hne
    · exact List.cons_ne_nil _ _

end AccessLayer.Text
