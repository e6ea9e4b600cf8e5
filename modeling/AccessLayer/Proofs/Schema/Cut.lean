import AccessLayer.Proofs.Schema.Grammar
import AccessLayer.Proofs.Schema.Section

namespace AccessLayer

namespace Fragment

open Text

/-- Every parenthesis that is closed was open, when `depth` of them are open before the text, and in
    the end all are closed. -/
structure ClosesFrom (depth : Nat) (cs : List Char) : Prop where
  none_stray : ∀ front, front <+: cs → front.count ')' ≤ depth + front.count '('
  all_closed : cs.count ')' = depth + cs.count '('

/-- No part of the text from its front closes more parentheses than it opens, and the whole closes
    all that it opens. -/
structure Balanced (cs : List Char) : Prop where
  none_stray : ∀ front, front <+: cs → front.count ')' ≤ front.count '('
  all_closed : cs.count ')' = cs.count '('

/-- Whether a comma stands at the position, with `depth` parentheses open before the text and none
    at the comma. -/
def isOuterFrom (depth : Nat) (cs : List Char) (i : Nat) : Bool :=
  cs[i]? == some ',' && (cs.take i).count ')' == depth + (cs.take i).count '('

/-- How many commas of the text stand outside all parentheses: what precedes them closes as many as
    it opens. -/
def outerCommas (cs : List Char) : Nat :=
  (List.range cs.length).countP fun i =>
    cs[i]? == some ',' && (cs.take i).count ')' == (cs.take i).count '('

/-- Balance by counting: no beginning closes more than it opens, and the whole closes what it
    opens. -/
theorem balanced_iff_take {cs : List Char} :
    Balanced cs ↔ (∀ n ≤ cs.length, (cs.take n).count ')' ≤ (cs.take n).count '(') ∧
      cs.count ')' = cs.count '(' := by
  constructor
  · rintro ⟨hstray, hclosed⟩
    exact ⟨fun n _ => hstray _ (List.take_prefix n cs), hclosed⟩
  · rintro ⟨hstray, hclosed⟩
    refine ⟨fun front hfront => ?_, hclosed⟩
    rw [List.prefix_iff_eq_take.mp hfront]
    exact hstray _ hfront.length_le

instance (cs : List Char) : Decidable (Balanced cs) := decidable_of_iff _ balanced_iff_take.symm

/-- Balance by depth: read from depth zero, a line comes back to it and is never below. -/
theorem balanced_iff_closesFrom {cs : List Char} : Balanced cs ↔ ClosesFrom 0 cs := by
  constructor
  · rintro ⟨hstray, hclosed⟩
    exact ⟨fun front hfront => by simpa using hstray front hfront, by simpa using hclosed⟩
  · rintro ⟨hstray, hclosed⟩
    exact ⟨fun front hfront => by simpa using hstray front hfront, by simpa using hclosed⟩

private theorem depth_add_count {depth : Nat} {c : Char} (hopen : c = ')' → 0 < depth)
    (cs : List Char) :
    depth + (c :: cs).count '(' + cs.count ')' =
      depthAfter depth c + cs.count '(' + (c :: cs).count ')' := by
  by_cases hleft : c = '('
  · subst hleft
    simp [depthAfter]
    omega
  · by_cases hright : c = ')'
    · subst hright
      have := hopen rfl
      simp [depthAfter]
      omega
    · simp [depthAfter, hleft, hright]

/-- A character is passed: a parenthesis that it closes was open, and what follows goes on from the
    depth behind it. -/
theorem closesFrom_cons {depth : Nat} {c : Char} {cs : List Char} :
    ClosesFrom depth (c :: cs) ↔
      (c = ')' → 0 < depth) ∧ ClosesFrom (depthAfter depth c) cs := by
  constructor
  · rintro ⟨hstray, hclosed⟩
    have hopen : c = ')' → 0 < depth := by
      rintro rfl
      have hfirst := hstray [')'] (by simp)
      simp at hfirst
      omega
    refine ⟨hopen, fun front hfront => ?_, ?_⟩
    · have hdepth := depth_add_count hopen front
      have hstray := hstray (c :: front) ((List.prefix_cons_inj c).mpr hfront)
      omega
    · have hdepth := depth_add_count hopen cs
      omega
  · rintro ⟨hopen, hstray, hclosed⟩
    refine ⟨fun front hfront => ?_, ?_⟩
    · cases front with
      | nil => simp
      | cons d front =>
        obtain ⟨rfl, hrest⟩ := List.cons_prefix_cons.mp hfront
        have hdepth := depth_add_count hopen front
        have hstray := hstray front hrest
        omega
    · have hdepth := depth_add_count hopen cs
      omega

/-- A line is cut at its first character, which is a comma outside parentheses, or that character
    goes on the first fragment of the rest. -/
theorem cut_cons_cases (depth : Nat) (c : Char) (cs : List Char) :
    (c = ',' ∧ depth = 0 ∧ cut depth (c :: cs) = [] :: cut 0 cs) ∨
      ¬ (c = ',' ∧ depth = 0) ∧ ∃ p ps, cut (depthAfter depth c) cs = p :: ps ∧
        cut depth (c :: cs) = (c :: p) :: ps := by
  by_cases hcomma : c = ',' ∧ depth = 0
  · exact Or.inl ⟨hcomma.1, hcomma.2, by rw [cut, if_pos hcomma]⟩
  · obtain ⟨p, ps, hcut⟩ := List.exists_cons_of_ne_nil (cut_ne_nil (depthAfter depth c) cs)
    exact Or.inr ⟨hcomma, p, ps, hcut, by rw [cut, if_neg hcomma, hcut, extendFirst]⟩

/-- Nothing but the commas at which a line is cut is missing from its fragments. -/
theorem intercalate_cut (depth : Nat) (cs : List Char) : [','].intercalate (cut depth cs) = cs := by
  induction cs generalizing depth with
  | nil => rfl
  | cons c cs ih =>
    rcases cut_cons_cases depth c cs with ⟨rfl, _, hcut⟩ | ⟨_, p, ps, hrest, hcut⟩
    · rw [hcut, List.intercalate_cons_of_ne_nil (cut_ne_nil 0 cs), ih, List.nil_append]
      rfl
    · have hjoined := ih (depthAfter depth c)
      rw [hrest] at hjoined
      rw [hcut]
      cases ps with
      | nil =>
        rw [List.intercalate_singleton] at hjoined ⊢
        rw [hjoined]
      | cons q ps =>
        rw [List.intercalate_cons_cons] at hjoined ⊢
        rw [← hjoined, List.cons_append, List.cons_append]

/-- The first fragment closes what is open before the line, and every other one what it opens. -/
theorem closesFrom_cut {depth : Nat} {cs p : List Char} {ps : List (List Char)}
    (h : ClosesFrom depth cs) (hcut : cut depth cs = p :: ps) :
    ClosesFrom depth p ∧ ∀ q ∈ ps, ClosesFrom 0 q := by
  induction cs generalizing depth p ps with
  | nil =>
    obtain ⟨rfl, rfl⟩ := List.cons.inj hcut
    exact ⟨h, nofun⟩
  | cons c cs ih =>
    obtain ⟨hopen, hrest⟩ := closesFrom_cons.mp h
    rcases cut_cons_cases depth c cs with ⟨rfl, rfl, hcomma⟩ | ⟨_, q, qs, htail, hkept⟩
    · -- The fragments of the rest are all fragments behind the comma.
      rw [hcomma] at hcut
      obtain ⟨rfl, rfl⟩ := List.cons.inj hcut
      obtain ⟨q, qs, htail⟩ := List.exists_cons_of_ne_nil (cut_ne_nil 0 cs)
      obtain ⟨hfirst, hothers⟩ := ih hrest htail
      refine ⟨⟨fun front hfront => ?_, rfl⟩, ?_⟩
      · rw [List.prefix_nil.mp hfront]
        exact Nat.le_refl 0
      · rw [htail]
        exact List.forall_mem_cons.mpr ⟨hfirst, hothers⟩
    · rw [hkept] at hcut
      obtain ⟨rfl, rfl⟩ := List.cons.inj hcut
      obtain ⟨hfirst, hothers⟩ := ih hrest htail
      exact ⟨closesFrom_cons.mpr ⟨hopen, hfirst⟩, hothers⟩

private theorem isOuterFrom_zero (depth : Nat) (c : Char) (cs : List Char) :
    isOuterFrom depth (c :: cs) 0 = decide (c = ',' ∧ depth = 0) := by
  by_cases hcomma : c = ','
  · by_cases hdepth : depth = 0
    · subst hcomma hdepth
      rfl
    · simp [isOuterFrom, hdepth, Ne.symm hdepth]
  · simp [isOuterFrom, hcomma]

private theorem isOuterFrom_succ {depth : Nat} {c : Char} (cs : List Char) (i : Nat)
    (hopen : c = ')' → 0 < depth) :
    isOuterFrom depth (c :: cs) (i + 1) = isOuterFrom (depthAfter depth c) cs i := by
  have hdepth := depth_add_count hopen (cs.take i)
  rw [isOuterFrom, isOuterFrom, List.getElem?_cons_succ, List.take_succ_cons]
  congr 1
  rw [Bool.eq_iff_iff, beq_iff_eq, beq_iff_eq]
  omega

/-- A line has one fragment more than it has commas outside all parentheses. -/
theorem length_cut {depth : Nat} {cs : List Char} (h : ClosesFrom depth cs) :
    (cut depth cs).length = (List.range cs.length).countP (isOuterFrom depth cs) + 1 := by
  induction cs generalizing depth with
  | nil => rfl
  | cons c cs ih =>
    obtain ⟨hopen, hrest⟩ := closesFrom_cons.mp h
    have hcount : (List.range (c :: cs).length).countP (isOuterFrom depth (c :: cs)) =
        (if c = ',' ∧ depth = 0 then 1 else 0) +
          (List.range cs.length).countP (isOuterFrom (depthAfter depth c) cs) := by
      rw [List.length_cons, List.range_succ_eq_map, List.countP_cons, List.countP_map, Nat.add_comm]
      congr 1
      · simp only [isOuterFrom_zero, decide_eq_true_eq]
      · exact List.countP_congr fun i _ => by rw [Function.comp_apply, isOuterFrom_succ cs i hopen]
    rw [hcount]
    rcases cut_cons_cases depth c cs with ⟨rfl, rfl, hcut⟩ | ⟨hkept, q, qs, htail, hcut⟩
    · have hlength : (cut 0 cs).length = _ := ih hrest
      rw [hcut, List.length_cons, if_pos ⟨rfl, rfl⟩, hlength]
      exact Nat.add_right_cancel_iff.mpr (Nat.add_comm _ _)
    · have hlength := ih hrest
      rw [htail] at hlength
      rw [hcut, if_neg hkept, List.length_cons]
      rw [List.length_cons] at hlength
      omega

private theorem ofLine_of_uncommented {line : List Char} (h : ¬ HoldsComment line) :
    ofLine line = cut 0 line := by
  have hwhole := uncommented_of_no_dashes h [] (by simp)
  rw [List.append_nil] at hwhole
  rw [ofLine, hwhole]
  exact congrArg (cut 0) (List.append_nil line)

private theorem trim_eq_nil_iff {cs : List Char} : trim cs = [] ↔ IsGap cs := by
  constructor
  · intro htrim
    by_contra hsolid
    obtain ⟨c, hc, hblank⟩ : ∃ c ∈ cs, isBlank c = false := by simpa [IsGap] using hsolid
    have hfree : c ∉ cs.takeWhile isBlank := (isGap_takeWhile cs).not_mem hblank
    rw [← List.takeWhile_append_dropWhile (p := isBlank) (l := cs)] at hc
    have hkept := (List.mem_append.mp hc).resolve_left hfree
    obtain ⟨tail, htail, hsplit⟩ := exists_dropped_end isBlank (cs.dropWhile isBlank)
    rw [show dropEnd isBlank (cs.dropWhile isBlank) = [] from htrim, List.nil_append] at hsplit
    rw [hsplit] at hkept
    rw [htail c hkept] at hblank
    cases hblank
  · intro hgap
    rw [trim, List.dropWhile_eq_nil_iff.mpr hgap]
    rfl

/-- A line without a comment is given back by its fragments with commas between them, and what is
    read of it are the fragments that are not blank, trimmed. When the parentheses of the line
    match, so do those of each fragment, and only the commas outside all parentheses cut it. -/
theorem line_cut_at_outer_commas {line : List Char} (hline : '\n' ∉ line)
    (hcomment : ¬ HoldsComment line) :
    [','].intercalate (ofLine line) = line ∧
      (Balanced line →
        (∀ f ∈ ofLine line, Balanced f) ∧ (ofLine line).length = outerCommas line + 1) ∧
      ofBody line = ((ofLine line).filter fun f => !f.all isBlank).map trim := by
  have hcut := ofLine_of_uncommented hcomment
  refine ⟨?_, fun hbalanced => ?_, ?_⟩
  · rw [hcut]
    exact intercalate_cut 0 line
  · have hcloses := balanced_iff_closesFrom.mp hbalanced
    obtain ⟨first, others, hfragments⟩ := List.exists_cons_of_ne_nil (cut_ne_nil 0 line)
    obtain ⟨hfirst, hothers⟩ := closesFrom_cut hcloses hfragments
    have hcount : outerCommas line = (List.range line.length).countP (isOuterFrom 0 line) := by
      exact List.countP_congr fun i _ => by rw [isOuterFrom, Nat.zero_add]
    rw [hcut]
    refine ⟨fun f hf => balanced_iff_closesFrom.mpr ?_, ?_⟩
    · rw [hfragments] at hf
      rcases List.mem_cons.mp hf with rfl | hlater
      · exact hfirst
      · exact hothers f hlater
    · rw [hcount]
      exact length_cut hcloses
  · have hblank (f : List Char) : (!(trim f).isEmpty) = !f.all isBlank := by
      rw [Bool.eq_iff_iff, Bool.not_eq_true', Bool.not_eq_true', ← Bool.not_eq_true,
        ← Bool.not_eq_true, List.isEmpty_iff, trim_eq_nil_iff, List.all_eq_true]
      rfl
    rw [ofBody, pieces_of_free (newline_free hline), List.flatMap_singleton, List.filter_map]
    congr 1
    exact List.filter_congr fun f _ => hblank f

/-- A line with a comma in a type, commas inside two parentheses, and a blank fragment. -/
def pricedLine : List Char := "price NUMERIC(10,2) CHECK (price > least(0, 1)), , tag TEXT".toList

/-- Two of the commas of this line part its fragments, and two stand between parentheses; one of the
    three fragments is blank. -/
theorem line_cut_at_outer_commas_priced :
    '\n' ∉ pricedLine ∧ ¬ HoldsComment pricedLine ∧ Balanced pricedLine ∧
      outerCommas pricedLine = 2 ∧ (ofLine pricedLine).length = 3 ∧
      (∀ f ∈ ofLine pricedLine, Balanced f) ∧
      ofBody pricedLine =
        ["price NUMERIC(10,2) CHECK (price > least(0, 1))".toList, "tag TEXT".toList] := by
  have hline : '\n' ∉ pricedLine := by decide
  have hcomment : ¬ HoldsComment pricedLine := by decide +kernel
  have hbalanced : Balanced pricedLine := by decide +kernel
  have hcount : outerCommas pricedLine = 2 := by decide +kernel
  obtain ⟨-, hcut, hbody⟩ := line_cut_at_outer_commas hline hcomment
  obtain ⟨hfragments, hlength⟩ := hcut hbalanced
  refine ⟨hline, hcomment, hbalanced, hcount, by rw [hlength, hcount], hfragments, ?_⟩
  rw [hbody]
  decide +kernel

end Fragment

end AccessLayer
