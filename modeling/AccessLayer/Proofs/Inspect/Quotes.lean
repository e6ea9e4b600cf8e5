import AccessLayer.Inspect.Json
import AccessLayer.Inspect.YamlScalar
import AccessLayer.Proofs.Text.Code
import Mathlib.Algebra.Group.Nat.Defs

namespace AccessLayer

open YamlScalar (digitValue? natural? hexDigits shortEscapes doubleQuotedChar)

private theorem foldlM_digits_hexDigits (width : Nat) : ∀ n m, n < 16 ^ width →
    (hexDigits width n).foldlM (fun n c => (digitValue? 16 c).map fun d => n * 16 + d) m =
      some (m * 16 ^ width + n) := by
  have hdigit : ∀ d : Fin 16, digitValue? 16 ("0123456789ABCDEF".toList.getD d '0') = some ↑d := by
    decide
  induction width with
  | zero =>
    intro n m hn
    obtain rfl : n = 0 := by simpa using hn
    simp [hexDigits]
  | succ width ih =>
    intro n m hn
    have hfront : n / 16 < 16 ^ width := by
      rw [Nat.pow_succ] at hn
      omega
    have hlast := hdigit ⟨n % 16, Nat.mod_lt n (by decide)⟩
    rw [hexDigits, List.foldlM_append, ih _ _ hfront]
    simp only [bind, Option.bind, pure, List.foldlM_cons, List.foldlM_nil, hlast, Option.map_some,
      Option.some.injEq]
    rw [Nat.pow_succ, Nat.add_mul, Nat.mul_assoc]
    omega

/-- A number in base sixteen is read back, if it has digits enough. -/
theorem natural_hexDigits {width n : Nat} (hwidth : 0 < width) (hn : n < 16 ^ width) :
    natural? 16 (hexDigits width n) = some n := by
  have hne : (hexDigits width n).isEmpty = false := by
    cases width with
    | zero => cases hwidth
    | succ width => simp [hexDigits]
  rw [natural?, hne, if_neg Bool.false_ne_true, foldlM_digits_hexDigits width n 0 hn]
  simp

private theorem length_hexDigits (width n : Nat) : (hexDigits width n).length = width := by
  induction width generalizing n with
  | zero => rfl
  | succ width ih => rw [hexDigits, List.length_append, ih, List.length_singleton]

/-- The character that the next `width` characters number in base sixteen. -/
def readNumbered (width : Nat) (cs : List Char) : Option (Char × List Char) :=
  (natural? 16 (cs.take width)).map fun n => (Char.ofNat n, cs.drop width)

/-- The first character between double quotes, where it may be escaped. -/
def readEscaped : List Char → Option (Char × List Char)
  | '\\' :: 'x' :: rest => readNumbered 2 rest
  | '\\' :: 'u' :: rest => readNumbered 4 rest
  | '\\' :: 'U' :: rest => readNumbered 8 rest
  | '\\' :: letter :: rest =>
    (shortEscapes.find? (·.2 == letter)).map fun e => (Char.ofNat e.1, rest)
  | c :: rest => some (c, rest)
  | [] => none

private theorem readNumbered_append {width n : Nat} {digits : List Char}
    (hlength : digits.length = width)
    (hdigits : natural? 16 digits = some n) (rest : List Char) :
    readNumbered width (digits ++ rest) = some (Char.ofNat n, rest) := by
  rw [readNumbered, List.take_left' hlength, List.drop_left' hlength, hdigits, Option.map_some]

private theorem readEscaped_of_ne {c : Char} (hc : c ≠ '\\') (rest : List Char) :
    readEscaped (c :: rest) = some (c, rest) := by
  unfold readEscaped
  split <;> simp_all

/-- No escape looks like the closing quote. -/
theorem head_escaped (c : Char) : (Json.escaped c).head? ≠ some '"' := by
  unfold Json.escaped
  split_ifs <;> simp_all

/-- Every character of a quoted text is read back, whatever stands behind it. -/
theorem readEscaped_escaped (c : Char) (rest : List Char) :
    readEscaped (Json.escaped c ++ rest) = some (c, rest) := by
  unfold Json.escaped
  split_ifs with hquote hback h₁ h₂ h₃ h₄ h₅ hcontrol
  · subst hquote; rfl
  · subst hback; rfl
  · subst h₁; rfl
  · subst h₂; rfl
  · subst h₃; rfl
  · subst h₄; rfl
  · subst h₅; rfl
  · have hnumber : ∀ n : Fin 32, natural? 16
        ['0', '0', Json.hexDigit (n / 16), Json.hexDigit (n % 16)] = some ↑n := by decide
    have hread := readNumbered_append rfl (hnumber ⟨c.toNat, hcontrol⟩) rest
    rwa [Char.ofNat_toNat] at hread
  · exact readEscaped_of_ne hback rest

private theorem readEscaped_shortEscape {n : Nat} {letter : Char}
    (h : (n, letter) ∈ shortEscapes) (rest : List Char) :
    readEscaped ('\\' :: letter :: rest) = some (Char.ofNat n, rest) := by
  simp only [shortEscapes, List.mem_cons, Prod.mk.injEq, List.not_mem_nil, or_false] at h
  rcases h with ⟨rfl, rfl⟩ | ⟨rfl, rfl⟩ | ⟨rfl, rfl⟩ | ⟨rfl, rfl⟩ | ⟨rfl, rfl⟩ | ⟨rfl, rfl⟩ |
    ⟨rfl, rfl⟩ | ⟨rfl, rfl⟩ | ⟨rfl, rfl⟩ | ⟨rfl, rfl⟩ | ⟨rfl, rfl⟩ | ⟨rfl, rfl⟩ | ⟨rfl, rfl⟩ |
    ⟨rfl, rfl⟩ | ⟨rfl, rfl⟩ <;> rfl

/-- Every character between double quotes is read back, whatever stands behind it. A short escape is
    the only one with its letter, and no number follows it. -/
theorem readEscaped_doubleQuotedChar (c : Char) (rest : List Char) :
    readEscaped (doubleQuotedChar c ++ rest) = some (c, rest) := by
  have hnumbered {width : Nat} (hwidth : 0 < width) (hc : c.toNat < 16 ^ width) :
      readNumbered width (hexDigits width c.toNat ++ rest) = some (c, rest) := by
    rw [readNumbered_append (length_hexDigits _ _) (natural_hexDigits hwidth hc), Char.ofNat_toNat]
  unfold doubleQuotedChar
  split
  · rename_i hplain
    simp only [Bool.and_eq_true, bne_iff_ne] at hplain
    exact readEscaped_of_ne hplain.2 rest
  · split
    · rename_i letter hlookup
      obtain ⟨before, after, hshort, -⟩ := List.lookup_eq_some_iff.mp hlookup
      have hmem : (c.toNat, letter) ∈ shortEscapes := by simp [hshort]
      rw [List.cons_append, List.cons_append, List.nil_append, readEscaped_shortEscape hmem,
        Char.ofNat_toNat]
    · have hbound : c.toNat < 0x110000 := by
        rcases c.valid with h | h
        · exact Nat.lt_trans h (by decide)
        · exact h.2
      split_ifs with hone htwo
      · exact hnumbered (by decide) (by omega)
      · exact hnumbered (by decide) (by omega)
      · exact hnumbered (by decide) (by omega)

/-- No character between double quotes looks like the closing one. -/
theorem head_doubleQuotedChar (c : Char) : (doubleQuotedChar c).head? ≠ some '"' := by
  unfold doubleQuotedChar
  split
  · rename_i hplain
    simp only [Bool.and_eq_true, bne_iff_ne] at hplain
    simpa using hplain.1.2
  · split
    · simp
    · split_ifs <;> simp

/-- Characters that are read back one by one, none as a double quote, between double quotes. -/
theorem readsBack_quoted {code : Char → List Char}
    (hread : ∀ c rest, readEscaped (code c ++ rest) = some (c, rest))
    (hquote : ∀ c, (code c).head? ≠ some '"') :
    ReadsBack (fun _ => True) (fun _ => True) fun cs : List Char =>
      '"' :: (cs.flatMap code ++ ['"']) := by
  have hchar : ReadsBack (fun _ => True) (fun _ => True) code :=
    .of_reader readEscaped fun c rest _ _ => hread c rest
  have hne (c : Char) : code c ≠ [] := by
    intro hnil
    cases hnil ▸ hread c []
  have hinside : ReadsBack (fun cs : List Char => ∀ c ∈ cs, True)
      (fun rest => rest.head? = some '"') (List.flatMap code) := by
    refine hchar.flatMap (fun _ _ => trivial) (fun _ _ _ => trivial) fun c rest _ hend => ?_
    obtain ⟨first, more, hcode⟩ := List.exists_cons_of_ne_nil (hne c)
    rw [hcode] at hend
    exact hquote c (by rwa [hcode])
  exact (hinside.framed ['"'] ['"'] fun _ _ => rfl).comp (fun _ _ _ _ h => h) fun _ _ _ _ => trivial

end AccessLayer
