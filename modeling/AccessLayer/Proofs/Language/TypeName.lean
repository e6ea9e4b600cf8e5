import AccessLayer.Proofs.Language.Names

namespace AccessLayer

open Text

namespace Name

/-- The characters of a name that are no underscores, each with its position in the name. -/
def kept (cs : List Char) : List (Char × Nat) := cs.zipIdx.filter fun p => p.1 != '_'

/-- What stands at `j` begins a word: the name begins there, or an underscore stands before it. -/
def BeginsWord (cs : List Char) (j : Nat) : Prop := j = 0 ∨ cs[j - 1]? = some '_'

instance (cs : List Char) (j : Nat) : Decidable (BeginsWord cs j) :=
  inferInstanceAs (Decidable (_ ∨ _))

/-- The lower case of a kept character, with a mark if it is a letter that begins a word. -/
def mark (cs : List Char) (p : Char × Nat) : Char × Bool :=
  (p.1.toLower, p.1.isAlpha && decide (BeginsWord cs p.2))

/-- The text `ts` is `cs` without underscores and with its case changed: the capitals of `ts` are
    the letters that begin a word in `cs`. -/
structure RunTogether (cs ts : List Char) : Prop where
  underscore_notMem : '_' ∉ ts
  lower_eq : lower ts = lower (cs.filter (· != '_'))
  isUpper_iff : ∀ (i : Nat) (d : Char), ts[i]? = some d →
    ∃ (c : Char) (j : Nat), (kept cs)[i]? = some (c, j) ∧
      (d.isUpper = true ↔ c.isAlpha = true ∧ BeginsWord cs j)

/-- Induction over the words of a name: what holds of names without underscores, and of two names
    with an underscore between them if it holds of both, holds of every name. Any underscore will do
    for the cut: what stands on either side of it is shorter. -/
theorem words_induction {motive : List Char → Prop} (word : ∀ cs, '_' ∉ cs → motive cs)
    (join : ∀ cs ds, motive cs → motive ds → motive (cs ++ '_' :: ds)) (cs : List Char) :
    motive cs := by
  induction hlength : cs.length using Nat.strong_induction_on generalizing cs with
  | _ n ih =>
    by_cases hmem : '_' ∈ cs
    · obtain ⟨front, back, rfl⟩ := List.append_of_mem hmem
      simp only [List.length_append, List.length_cons] at hlength
      have hfront := ih front.length (by omega) front rfl
      have hback := ih back.length (by omega) back rfl
      exact join front back hfront hback
    · exact word cs hmem

/-- The parts of a name with an underscore between them are run together. -/
theorem typeChars_join (cs ds : List Char) :
    typeChars (cs ++ '_' :: ds) = typeChars cs ++ typeChars ds := by
  rw [typeChars, pieces_append_separator (by rfl), List.flatMap_append]
  rfl

/-- The skeletons of the parts follow each other. -/
theorem skeleton_join (cs ds : List Char) :
    skeleton (cs ++ '_' :: ds) = skeleton cs ++ skeleton ds := by
  rw [skeleton, pieces_append_separator (by rfl), List.flatMap_append]
  rfl

private theorem skeleton_word {cs : List Char} (h : '_' ∉ cs) : skeleton cs = markFirst cs := by
  have hfree : ∀ c ∈ cs, (c == '_') = false := by
    intro c hc
    exact beq_false_of_ne (ne_of_mem_of_not_mem hc h)
  rw [skeleton, pieces_of_free hfree, List.flatMap_singleton]

private theorem mem_kept {cs : List Char} {p : Char × Nat} (h : p ∈ kept cs) :
    cs[p.2]? = some p.1 ∧ p.1 ≠ '_' := by
  obtain ⟨hmem, hne⟩ := List.mem_filter.mp h
  exact ⟨List.mem_zipIdx_iff_getElem?.mp hmem, by simpa using hne⟩

/-- What is kept are the characters that are no underscores. -/
theorem map_fst_kept (cs : List Char) : (kept cs).map Prod.fst = cs.filter (· != '_') := by
  have hfilter := @List.filter_map _ _ Prod.fst (· != '_') cs.zipIdx
  rw [List.zipIdx_map_fst] at hfilter
  exact hfilter.symm

private theorem kept_word {cs : List Char} (h : '_' ∉ cs) : kept cs = cs.zipIdx := by
  refine List.filter_eq_self.mpr fun p hp => ?_
  have hmem := List.fst_mem_of_mem_zipIdx hp
  simpa using ne_of_mem_of_not_mem hmem h

/-- Behind an underscore the positions go on from there. -/
theorem kept_join (cs ds : List Char) :
    kept (cs ++ '_' :: ds) =
      kept cs ++ (kept ds).map fun p => (p.1, p.2 + (cs.length + 1)) := by
  have hshift : ds.zipIdx (cs.length + 1) =
      ds.zipIdx.map fun p => (p.1, p.2 + (cs.length + 1)) := by
    rw [List.zipIdx_eq_map_add]
    exact List.map_congr_left fun p _ => congrArg (Prod.mk p.1) (Nat.add_comm _ p.2)
  rw [kept, List.zipIdx_append, List.zipIdx_cons, List.filter_append,
    List.filter_cons_of_neg (by simp), Nat.zero_add, hshift, List.filter_map]
  rfl

private theorem beginsWord_word {cs : List Char} (h : '_' ∉ cs) (j : Nat) :
    BeginsWord cs j ↔ j = 0 := by
  constructor
  · rintro (hzero | hbefore)
    · exact hzero
    · exact absurd (List.mem_of_getElem? hbefore) h
  · exact Or.inl

private theorem beginsWord_join_left {cs : List Char} {j : Nat} (hj : j < cs.length)
    (ds : List Char) :
    BeginsWord (cs ++ '_' :: ds) j ↔ BeginsWord cs j := by
  rw [BeginsWord, BeginsWord, List.getElem?_append_left (by omega)]

private theorem beginsWord_join_right (cs ds : List Char) (j : Nat) :
    BeginsWord (cs ++ '_' :: ds) (j + (cs.length + 1)) ↔ BeginsWord ds j := by
  have hbefore : j + (cs.length + 1) - 1 = cs.length + j := by omega
  rw [BeginsWord, BeginsWord, hbefore, List.getElem?_append_right (by omega),
    Nat.add_sub_cancel_left]
  cases j with
  | zero => simp
  | succ k => simp

private theorem mark_join_left {cs : List Char} {p : Char × Nat} (hp : p ∈ kept cs)
    (ds : List Char) :
    mark (cs ++ '_' :: ds) p = mark cs p := by
  have hlt : p.2 < cs.length := by
    obtain ⟨hlt, -⟩ := List.getElem?_eq_some_iff.mp (mem_kept hp).1
    exact hlt
  simp only [mark, beginsWord_join_left hlt]

private theorem mark_join_right (cs ds : List Char) (p : Char × Nat) :
    mark (cs ++ '_' :: ds) (p.1, p.2 + (cs.length + 1)) = mark ds p := by
  simp only [mark, beginsWord_join_right]

private theorem markFirst_word {cs : List Char} (h : '_' ∉ cs) :
    markFirst cs = cs.zipIdx.map (mark cs) := by
  cases cs with
  | nil => rfl
  | cons c cs =>
    have hfirst : mark (c :: cs) (c, 0) = (c.toLower, c.isAlpha) := by
      simp [mark, beginsWord_word h]
    have hrest : ∀ p ∈ cs.zipIdx 1, mark (c :: cs) p = (p.1.toLower, false) := by
      intro p hp
      have hpos := List.le_snd_of_mem_zipIdx hp
      have hinner : ¬ p.2 = 0 := by omega
      simp [mark, beginsWord_word h, hinner]
    rw [markFirst, List.zipIdx_cons, List.map_cons, hfirst, List.map_congr_left hrest]
    conv_lhs => rw [← List.zipIdx_map_fst 1 cs, List.map_map]
    rfl

/-- The skeleton of a name lists the kept characters in their order, marked where a word begins. The
    marks of either part are those that it has alone: nothing is looked at across the underscore. -/
theorem skeleton_eq_map_kept (cs : List Char) : skeleton cs = (kept cs).map (mark cs) := by
  induction cs using words_induction with
  | word cs h => rw [skeleton_word h, kept_word h, markFirst_word h]
  | join cs ds ihc ihd =>
    rw [skeleton_join, kept_join, List.map_append, ihc, ihd, List.map_map]
    congr 1
    · exact List.map_congr_left fun p hp => (mark_join_left hp ds).symm
    · exact List.map_congr_left fun p _ => (mark_join_right cs ds p).symm

set_option maxRecDepth 4000 in
private theorem ascii_of_ascii : ∀ c : Char, c.toNat < 128 →
    c.toUpper.toNat < 128 ∧ c.toLower.toNat < 128 ∧ (c.toLower = '_' → c = '_') ∧
      (if c.isUpper then c.toLower.toUpper else c.toLower) = c :=
  forall_ascii (by decide)

/-- The type of an ASCII name is ASCII. -/
theorem IsAscii.typeChars {cs : List Char} (h : IsAscii cs) : IsAscii (typeChars cs) := by
  intro d hd
  obtain ⟨p, hp, hmem⟩ := List.mem_flatMap.mp hd
  have hword := h.of_mem_pieces hp
  cases p with
  | nil => cases hmem
  | cons c p =>
    rw [capitalize_of_ascii hword] at hmem
    rcases List.mem_cons.mp hmem with rfl | hrest
    · exact (ascii_of_ascii c (hword c (by simp))).1
    · obtain ⟨e, he, rfl⟩ := List.mem_map.mp hrest
      exact (ascii_of_ascii e (hword e (by simp [he]))).2.1

section Marks

variable {cs ts : List Char} (hcs : IsAscii cs) (hts : IsAscii ts)

include hcs hts

private theorem lower_eq_iff : lower ts = lower (cs.filter (· != '_')) ↔
    ts.map Char.toLower = (kept cs).map fun p => p.1.toLower := by
  have hkept : IsAscii (cs.filter (· != '_')) := fun c hc => hcs c (List.mem_filter.mp hc).1
  rw [lower_of_ascii hts, lower_of_ascii hkept, ← map_fst_kept, List.map_map]
  rfl

private theorem RunTogether.map_eq (h : RunTogether cs ts) :
    ts.map (fun c => (c.toLower, c.isUpper)) = (kept cs).map (mark cs) := by
  have hlowers := (lower_eq_iff hcs hts).mp h.lower_eq
  refine List.ext_getElem? fun i => ?_
  have hlower := congrArg (fun ds => ds[i]?) hlowers
  simp only [List.getElem?_map] at hlower ⊢
  cases hd : ts[i]? with
  | none =>
    rw [hd, Option.map_none, eq_comm, Option.map_eq_none_iff] at hlower
    rw [hlower]
    rfl
  | some d =>
    obtain ⟨c, j, hkept, hupper⟩ := h.isUpper_iff i d hd
    rw [hd, hkept, Option.map_some, Option.map_some, Option.some_inj] at hlower
    have hmark : d.isUpper = (c.isAlpha && decide (BeginsWord cs j)) := by
      rw [Bool.eq_iff_iff, hupper, Bool.and_eq_true, decide_eq_true_eq]
    rw [hkept, Option.map_some, Option.map_some, mark, ← hlower, ← hmark]

private theorem runTogether_of_map_eq
    (h : ts.map (fun c => (c.toLower, c.isUpper)) = (kept cs).map (mark cs)) :
    RunTogether cs ts := by
  have hlowers : ts.map Char.toLower = (kept cs).map fun p => p.1.toLower := by
    have hfst := congrArg (List.map Prod.fst) h
    rwa [List.map_map, List.map_map] at hfst
  refine ⟨?_, (lower_eq_iff hcs hts).mpr hlowers, ?_⟩
  · intro hmem
    have hlower : '_' ∈ (kept cs).map fun p => p.1.toLower := by
      rw [← hlowers]
      exact List.mem_map_of_mem hmem
    obtain ⟨p, hp, heq⟩ := List.mem_map.mp hlower
    obtain ⟨hat, hne⟩ := mem_kept hp
    exact hne ((ascii_of_ascii p.1 (hcs p.1 (List.mem_of_getElem? hat))).2.2.1 heq)
  · intro i d hd
    have hmark := congrArg (fun ms => ms[i]?) h
    simp only [List.getElem?_map, hd, Option.map_some] at hmark
    obtain ⟨⟨c, j⟩, hkept, heq⟩ := Option.map_eq_some_iff.mp hmark.symm
    have hupper : (c.isAlpha && decide (BeginsWord cs j)) = d.isUpper := congrArg Prod.snd heq
    refine ⟨c, j, hkept, ?_⟩
    rw [← hupper, Bool.and_eq_true, decide_eq_true_eq]

end Marks

/-- The type of an ASCII name keeps its characters but the underscores, in order and up to case, and
    its capitals are the letters that begin a word. -/
theorem runTogether_typeChars {cs : List Char} (h : IsAscii cs) :
    RunTogether cs (typeChars cs) := by
  refine runTogether_of_map_eq h h.typeChars ?_
  rw [map_typeChars h, skeleton_eq_map_kept]

/-- A character in ASCII is known from its lower case and from whether it is a capital, so the name
    of the type is the only text run together in this way. -/
theorem RunTogether.eq_typeChars {cs ts : List Char} (hcs : IsAscii cs) (hts : IsAscii ts)
    (h : RunTogether cs ts) : ts = typeChars cs := by
  have hrespelled : ts.map (fun d => if d.isUpper then d.toLower.toUpper else d.toLower) = ts := by
    conv_rhs => rw [← List.map_id ts]
    exact List.map_congr_left fun d hd => (ascii_of_ascii d (hts d hd)).2.2.2
  have hmarks := h.map_eq hcs hts
  rw [← skeleton_eq_map_kept] at hmarks
  rw [← map_skeleton hcs, ← hmarks, List.map_map]
  exact hrespelled.symm

/-- An empty word adds nothing to the name. -/
theorem flatMap_solidPieces (cs : List Char) :
    (solidPieces (· == '_') cs).flatMap capitalize = typeChars cs := by
  rw [typeChars, solidPieces]
  induction pieces (· == '_') cs with
  | nil => rfl
  | cons p ps ih =>
    cases p with
    | nil => exact ih
    | cons c p => rw [List.filter_cons_of_pos (by rfl), List.flatMap_cons, List.flatMap_cons, ih]

/-- A heading shows the words of the type with spaces between them, if the name has none itself. -/
theorem filter_label {name : String} (h : ' ' ∉ name.toList) :
    (label name).toList.filter (· != ' ') = typeChars name.toList := by
  have hwords : ∀ p ∈ (solidPieces (· == '_') name.toList).map capitalize, ' ' ∉ p := by
    intro p hp
    obtain ⟨w, hw, rfl⟩ := List.mem_map.mp hp
    refine space_notMem_capitalize fun hspace => h ?_
    exact (mem_of_mem_pieces (List.mem_filter.mp hw).1 hspace).1
  have hlabel : (label name).toList =
      [' '].intercalate ((solidPieces (· == '_') name.toList).map capitalize) := by
    rw [label, String.toList_intercalate, List.map_map]
    simp only [Function.comp_def, String.toList_ofList]
    rfl
  rw [hlabel, filter_intercalate hwords, ← List.flatMap_def, flatMap_solidPieces]

/-- The name of a type is made part by part, and it is the heading without its spaces. In ASCII it
    keeps all but the underscores and the case of letters, shows by its capitals where words begin,
    and is the only text that does. -/
theorem typeName_keeps_all_but_underscores_and_case (a b name : String) :
    typeName (a ++ "_" ++ b) = typeName a ++ typeName b ∧
      (IsAscii name.toList → RunTogether name.toList (typeName name).toList ∧
        ∀ ts, IsAscii ts → RunTogether name.toList ts → ts = (typeName name).toList) ∧
      (' ' ∉ name.toList →
        String.ofList ((label name).toList.filter (· != ' ')) = typeName name) := by
  refine ⟨?_, fun hname => ?_, fun hname => ?_⟩
  · have hjoined : (a ++ "_" ++ b).toList = a.toList ++ '_' :: b.toList := by simp
    rw [typeName, hjoined, typeChars_join, String.ofList_append]
    rfl
  · rw [typeName, String.toList_ofList]
    exact ⟨runTogether_typeChars hname, fun ts hts h => h.eq_typeChars hname hts⟩
  · rw [filter_label hname]
    rfl

/-- Empty words, digits and capitals in one name. -/
theorem typeName_keeps_all_but_underscores_and_case_audit :
    IsAscii "_audit__LOG_2x".toList ∧ ' ' ∉ "_audit__LOG_2x".toList ∧
      IsAscii "AuditLog2x".toList ∧ label "_audit__LOG_2x" = "Audit Log 2x" ∧
      typeName ("_audit_" ++ "_" ++ "LOG_2x") = typeName "_audit_" ++ typeName "LOG_2x" ∧
      RunTogether "_audit__LOG_2x".toList "AuditLog2x".toList ∧
      "AuditLog2x".toList = (typeName "_audit__LOG_2x").toList ∧
      String.ofList ((label "_audit__LOG_2x").toList.filter (· != ' ')) =
        typeName "_audit__LOG_2x" := by
  obtain ⟨hjoin, hascii, hlabel⟩ :=
    typeName_keeps_all_but_underscores_and_case "_audit_" "LOG_2x" "_audit__LOG_2x"
  have hname : IsAscii "_audit__LOG_2x".toList := by decide
  have htype : IsAscii "AuditLog2x".toList := by decide
  obtain ⟨hkept, honly⟩ := hascii hname
  have hspelled : typeName "_audit__LOG_2x" = "AuditLog2x" := by decide
  rw [hspelled] at hkept
  exact ⟨hname, by decide, htype, by decide, hjoin, hkept, honly _ htype hkept, hlabel (by decide)⟩

end Name

end AccessLayer
