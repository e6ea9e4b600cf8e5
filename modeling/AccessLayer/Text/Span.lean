
namespace AccessLayer.Text

/-- A range of code points, both ends included. -/
abbrev Span := Nat × Nat

/-- Whether a character is in one of the spans. -/
def inSpans (spans : List Span) (c : Char) : Bool :=
  spans.any fun s => s.1 ≤ c.toNat && c.toNat ≤ s.2

/-- A character is in a set of spans if its code point is between the ends of one. -/
theorem inSpans_eq_true_iff (spans : List Span) (c : Char) :
    inSpans spans c = true ↔ ∃ s ∈ spans, s.1 ≤ c.toNat ∧ c.toNat ≤ s.2 := by
  simp [inSpans]

end AccessLayer.Text
