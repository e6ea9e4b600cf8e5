import AccessLayer.Proofs.Artifact.Heading

namespace AccessLayer

namespace Blueprint

open Line Heading Text

/-- With one of these the heads start, and no other line does. -/
def cppMarks : List (List Char) :=
  [['s', 't', 'd', ':', ':', 'f', 'u', 't', 'u', 'r', 'e', '<'],
   ['v', 'i', 'r', 't', 'u', 'a', 'l', ' ', 's', 't', 'd', ':', ':']]

/-- The heading of a class whose methods give futures. -/
@[simps]
def cppHeading (b : Blueprint) (lead trail : String) : Heading :=
  ⟨lead, trail, cppHead b.typeName b.key.type⟩

variable {b : Blueprint}

section Distinct

private theorem exists_starts_behind {marks : List (List Char)} {cs ds : List Char}
    (h : ∃ m ∈ marks, m <+: cs ++ ds) (s : String) :
    ∃ m ∈ marks, m <+: (String.ofList cs ++ (String.ofList ds ++ s)).toList := by
  rw [← String.append_assoc, ← String.ofList_append]
  exact exists_starts_ofList h s

private theorem not_starts_behind {cs ks ds : List Char} (h : Diverge (cs ++ ks) ds)
    (s t : String) :
    ¬ (String.ofList cs ++ (String.ofList ks ++ s)).toList <+: (String.ofList ds ++ t).toList ∧
      ¬ (String.ofList ds ++ t).toList <+:
        (String.ofList cs ++ (String.ofList ks ++ s)).toList := by
  simp only [String.toList_append, String.toList_ofList, ← List.append_assoc]
  exact ⟨h.not_starts _ _, h.symm.not_starts _ _⟩

private theorem cppHead_apart (model trail : String) (category : Category) {op op' : Operation}
    (hop : op ≠ op') :
    ¬ (cppHead model (Language.nativeType .cpp category) op).toList <+:
      (cppHead model (Language.nativeType .cpp category) op' ++ trail).toList := by
  unfold cppHead Language.nativeType
  cases op <;> cases op' <;> try exact absurd rfl hop
  case create.findById | create.findAll | create.update | create.delete =>
    cases category <;> simp only [toString, String.append_assoc] <;>
      exact (not_starts_behind (by decide) _ _).1
  case findById.create | findAll.create | update.create | delete.create =>
    cases category <;> simp only [toString, String.append_assoc] <;>
      exact (not_starts_behind (by decide) _ _).2
  all_goals
    simp only [toString, String.append_assoc]
    exact not_starts_ofList (by decide) _ _

/-- No key is of a type that could be mistaken for what another operation gives, so the heads are
    told apart by their first words, whatever the model and the key are called. -/
theorem distinct_cppHeading (hb : b.Unbroken) {category : Category}
    (hkey : b.key.type = Language.nativeType .cpp category) {lead trail : String}
    (hlead : lead = "" ∨ lead = "virtual ") (htrail : IsInline trail) :
    (cppHeading b lead trail).Distinct cppMarks where
  inline op := by
    have hname := isInline_of_isSolid hb.typeName
    have hkeyType := hb.keyType
    have hleadInline : IsInline lead := by rcases hlead with rfl | rfl <;> decide
    unfold cppHeading head cppHead
    cases op <;>
      simp (disch := (refine notMem_ofList ?_; decide)) [toString, isInline_of_notMem, hname,
        hkeyType, hleadInline, htrail]
  solid := by decide
  marked op := by
    unfold cppHeading head cppHead
    rcases hlead with rfl | rfl
    · cases op <;>
        · simp only [toString, String.append_assoc, String.empty_append]
          exact exists_starts_ofList (by decide) _
    · cases op <;>
        · simp only [toString, String.append_assoc]
          exact exists_starts_behind (by decide) _
  apart op op' hop := by
    rw [cppHeading, hkey]
    exact cppHead_apart _ _ _ hop

end Distinct

section Fits

variable (h : Heading)

private theorem cppOpening_fits (hl : b.language = .cpp) (purpose : String) :
    h.FitsAll cppMarks (b.opening purpose) ↔ IsInline purpose := by
  simp (disch := first | (refine apart_ofList ?_; decide) | decide) [opening, originNote, hl,
    toString, String.append_assoc]

variable (hb : b.Unbroken) (hl : b.language = .cpp)

include hb

private theorem cppSibling_fits (kind : Kind) : h.Fits cppMarks (b.includeSibling kind) := by
  have htable := hb.table
  have hfile : IsInline ((b.language.fileName? b.table kind).getD "") := by
    unfold Language.fileName? Language.extension
    cases kind <;> cases b.language <;>
      simp (disch := (refine apart_ofList ?_; decide)) [htable]
  unfold includeSibling Language.headerFolder
  cases kind <;>
    simp (disch := first | (refine apart_ofList ?_; decide) | decide) [String.append_assoc, hfile]

include hl

private theorem cppContract_fits :
    (cppHeading b "virtual " " = 0;").FitsAll cppMarks (cppContract b) := by
  have htable := hb.table
  have hsymbol := hb.symbol
  have hopening := cppOpening_fits (cppHeading b "virtual " " = 0;") hl
  have hsibling := cppSibling_fits (cppHeading b "virtual " " = 0;") hb
  have hdeclared : ∀ d ∈ b.operations,
      IsInline d.doc ∧ d.signature = cppHead b.typeName b.key.type d.op := by
    intro d hd
    obtain ⟨hsignature, -, hdoc⟩ := hb.declared d hd
    rw [hsignature, signature, hl]
    exact ⟨hdoc, (cppHead_eq_signature ..).symm⟩
  simpa (disch := first | (refine apart_ofList ?_; decide) | decide) [cppContract, toString,
    String.append_assoc, htable, hsymbol, hopening, hsibling] using hdeclared

omit hl

omit hb in
private theorem cppCall_fits {opening : String} {values : List String}
    (hopening : Apart cppMarks opening.toList)
    (hvalues : ∀ v ∈ values, Quiet cppMarks (v ++ ",") ∧ Quiet cppMarks (v ++ ");")) :
    h.FitsAll cppMarks (cppCall opening values) := by
  have hfirst : Quiet cppMarks (opening ++ ",") := (quiet_append hopening _).mpr (by decide)
  rcases List.eq_nil_or_concat values with rfl | ⟨before, last, rfl⟩
  · simpa [cppCall, toString] using hfirst
  · have hbefore : ∀ v ∈ before, Quiet cppMarks (v ++ ",") :=
      fun v hv => (hvalues v (by simp [hv])).1
    have hlast := (hvalues last (by simp)).2
    simpa [cppCall, toString, Argument.text, hlast] using ⟨hfirst, hbefore⟩

omit hb in
private theorem quiet_cppClosure_none (captured : String) :
    Quiet cppMarks (cppClosure captured none) ↔ IsInline captured := by
  unfold cppClosure
  simp (disch := (refine apart_ofList ?_; decide)) [toString, String.append_assoc]

omit hb in
private theorem quiet_cppClosure_some (captured result : String) :
    Quiet cppMarks (cppClosure captured (some result)) ↔ IsInline captured ∧ IsInline result := by
  unfold cppClosure
  simp (disch := (refine apart_ofList ?_; decide)) [toString, String.append_assoc]

/-- Values are passed on lines of their own, which start with them. -/
theorem cppPassed_fits {f : Field} (hf : f ∈ b.fields) :
    Quiet cppMarks (f.bind ++ ",") ∧ Quiet cppMarks (f.bind ++ ");") :=
  ⟨hb.quiet_bind (by decide) hf (by decide), hb.quiet_bind (by decide) hf (by decide)⟩

private theorem cppTask_fits (op : Operation) : h.FitsAll cppMarks (cppTask b op) := by
  have hname := isInline_of_isSolid hb.typeName
  have hkey := hb.keyType
  have hread := hb.keyRead
  have hid : Quiet cppMarks ("id" ++ ",") ∧ Quiet cppMarks ("id" ++ ");") := by
    simp (disch := (refine apart_ofList ?_; decide)) only [quiet_append, isInline_of_apart,
      and_self]
  have hinserted : h.FitsAll cppMarks (cppCall "pqxx::result result = txn.exec_params(INSERT"
      (b.queries.insertFields.map (·.bind))) := by
    refine cppCall_fits h (apart_ofList (by decide)) (List.forall_mem_map.mpr fun f hf => ?_)
    exact cppPassed_fits hb (hb.inserted hf)
  have hupdated : h.FitsAll cppMarks (cppCall "txn.exec_params(UPDATE"
      (b.queries.updateFields.map (·.bind) ++ ["id"])) := by
    refine cppCall_fits h (apart_ofList (by decide)) (List.forall_mem_append.mpr ⟨?_, ?_⟩)
    · exact List.forall_mem_map.mpr fun f hf => cppPassed_fits hb (hb.updated hf)
    · simpa using hid
  cases op <;>
    simp (disch := (refine apart_ofList ?_; decide)) [cppTask, cppLockAndBegin, cppCommit,
      Argument.text, toString, String.append_assoc, hname, hkey, hread, hinserted, hupdated,
      quiet_cppClosure_none, quiet_cppClosure_some]

private theorem cppStoreMethod_fits (op : Operation) :
    (cppHeading b "" " override \x7b").FitsAll cppMarks (cppStoreMethod b op) := by
  have htask := cppTask_fits (cppHeading b "" " override \x7b") hb op
  simp (disch := (refine apart_ofList ?_; decide)) [cppStoreMethod, htask]

omit hb in
private theorem timestampHelpers_fits : h.FitsAll cppMarks timestampHelpers := by
  simp (disch := first | (refine apart_ofList ?_; decide) | decide) [timestampHelpers]

include hl

/-- Each line of the store that starts like an operation is the head of one. Values are passed on
    lines of their own, and none of them starts so. -/
theorem cppStore_fits :
    (cppHeading b "" " override \x7b").FitsAll cppMarks (cppStore b) := by
  have hname := isInline_of_isSolid hb.typeName
  have hsymbol := hb.symbol
  have hopening := cppOpening_fits (cppHeading b "" " override \x7b") hl
  have hsibling := cppSibling_fits (cppHeading b "" " override \x7b") hb
  have hhelpers := timestampHelpers_fits (cppHeading b "" " override \x7b")
  have hmethod := cppStoreMethod_fits hb
  have hstatements := hb.statements
  have hread : ∀ f ∈ b.fields, IsInline f.name ∧ IsInline f.read :=
    fun f hf => ⟨isInline_of_isSolid (hb.fieldName f hf), hb.fieldRead f hf⟩
  simpa (disch := first | (refine apart_ofList ?_; decide) | decide) [cppStore, cppConstant,
    toString, String.append_assoc, hname, hsymbol, hopening, hsibling, hhelpers, hmethod,
    hstatements, Operation.all, List.intercalate] using hread

omit hl

private theorem cppMockMethod_fits (op : Operation) :
    (cppHeading b "" " override \x7b").FitsAll cppMarks (cppMockMethod b op) := by
  have hname := isInline_of_isSolid hb.typeName
  have hkeyName := hb.keyName
  cases op <;>
    simp (disch := (refine apart_ofList ?_; decide)) [cppMockMethod, cppMockBody, cppGuard,
      toString, String.append_assoc, hname, hkeyName]

include hl

private theorem cppMock_fits : (cppHeading b "" " override \x7b").FitsAll cppMarks (cppMock b) := by
  have hname := isInline_of_isSolid hb.typeName
  have hkey := hb.keyType
  have hkeyName := hb.keyName
  have hcolumn := hb.keyColumn
  have hsymbol := hb.symbol
  have hopening := cppOpening_fits (cppHeading b "" " override \x7b") hl
  have hsibling := cppSibling_fits (cppHeading b "" " override \x7b") hb
  have hmethod := cppMockMethod_fits hb
  have hconstructor : Quiet cppMarks (b.symbol .mock ++ "() = default;") := by
    unfold symbol Language.symbol
    simp (disch := (refine apart_ofList ?_; decide)) [hl, String.append_assoc, hname]
  simp (disch := first | (refine apart_ofList ?_; decide) | decide) [cppMock, cppReady, toString,
    String.append_assoc, hname, hkey, hkeyName, hcolumn, hsymbol, hopening, hsibling, hmethod,
    hconstructor, Operation.all, List.intercalate]

end Fits

section Heads

private theorem heads_cppContract :
    (heads (cppContract b)).map Prod.fst = b.operations.map (·.op) := by
  simpa [cppContract, List.map_flatMap] using List.map_eq_flatMap.symm

private theorem heads_cppStore (hl : b.language = .cpp) :
    (heads (cppStore b)).map Prod.fst = Operation.all := by
  have hmethod : ∀ op, heads (cppStoreMethod b op) = [(op, b.signature op)] := by
    intro op
    simpa only [storeMethod, hl, heads_indent] using heads_storeMethod b op
  simp [cppStore, cppConstant, timestampHelpers, hmethod, Operation.all, List.intercalate]

private theorem heads_cppMock : (heads (cppMock b)).map Prod.fst = Operation.all := by
  simp [cppMock, cppReady, cppMockMethod, cppMockBody, cppGuard, Operation.all, List.intercalate]

end Heads

private theorem cppHeading_eq (hl : b.language = .cpp) (lead trail : String) :
    (⟨lead, trail, b.signature⟩ : Heading) = cppHeading b lead trail := by
  have hsignature : b.signature = cppHead b.typeName b.key.type := by
    funext op
    rw [signature, hl, cppHead_eq_signature]
  rw [hsignature, cppHeading]

section Once

variable (hb : b.Unbroken) (hl : b.language = .cpp) {category : Category}
  (hkey : b.key.type = Language.nativeType .cpp category)

include hb hl hkey

/-- Every operation is declared on one line of the contract. -/
theorem cppContract_once (hops : b.operations.map (·.op) = Operation.all) (op : Operation) :
    HeadsOnce (render .cpp (cppContract b)) (b.contractHeading.head op)
      b.contractHeading.trail := by
  have hheading : b.contractHeading = cppHeading b "virtual " " = 0;" := by
    rw [contractHeading, hl]
    exact cppHeading_eq hl "virtual " " = 0;"
  rw [hheading]
  exact headsOnce_render_of_fits .cpp (distinct_cppHeading hb hkey (Or.inr rfl) (by decide))
    (cppContract_fits hb hl) (heads_cppContract.trans hops) op

/-- Every operation is implemented behind one line of the store. -/
theorem cppStore_once (op : Operation) :
    HeadsOnce (render .cpp (cppStore b)) (b.storeHeading.head op) b.storeHeading.trail := by
  have hheading : b.storeHeading = cppHeading b "" " override \x7b" := by
    rw [storeHeading, hl]
    exact cppHeading_eq hl "" " override \x7b"
  rw [hheading]
  exact headsOnce_render_of_fits .cpp (distinct_cppHeading hb hkey (Or.inl rfl) (by decide))
    (cppStore_fits hb hl) (heads_cppStore hl) op

/-- Every operation is implemented behind one line of the mock, whose constructor starts with the
    name of the class. -/
theorem cppMock_once (op : Operation) :
    HeadsOnce (render .cpp (cppMock b)) (b.mockHeading.head op) b.mockHeading.trail := by
  have hheading : b.mockHeading = cppHeading b "" " override \x7b" := by
    rw [mockHeading, hl]
    exact cppHeading_eq hl "" " override \x7b"
  rw [hheading]
  exact headsOnce_render_of_fits .cpp (distinct_cppHeading hb hkey (Or.inl rfl) (by decide))
    (cppMock_fits hb hl) heads_cppMock op

end Once

end Blueprint

end AccessLayer
