import AccessLayer.Proofs.Artifact.Heading

namespace AccessLayer

namespace Blueprint

open Line Heading Text

/-- With this the heads start, and no other line does. -/
def pythonMarks : List (List Char) := [['a', 's', 'y', 'n', 'c', ' ', 'd', 'e', 'f', ' ']]

/-- The heading of a class whose methods are asynchronous. -/
@[simps]
def pythonHeading (b : Blueprint) : Heading := ⟨"", ":", pythonHead b.typeName b.key.type⟩

variable {b : Blueprint}

private theorem distinct_pythonHeading (hb : b.Unbroken) :
    (pythonHeading b).Distinct pythonMarks where
  inline op := by
    have hname := isInline_of_isSolid hb.typeName
    have hkey := hb.keyType
    unfold pythonHeading head pythonHead
    cases op <;>
      simp (disch := (refine notMem_ofList ?_; decide)) [toString, isInline_of_notMem, hname, hkey]
  solid := by decide
  marked op := by
    unfold pythonHeading head pythonHead
    cases op <;>
      · simp only [toString, String.append_assoc, String.empty_append]
        exact exists_starts_ofList (by decide) _
  apart op op' hop := by
    unfold pythonHeading pythonHead
    cases op <;> cases op' <;> try exact absurd rfl hop
    all_goals
      simp only [toString, String.append_assoc]
      exact not_starts_ofList (by decide) _ _

section Fits

variable (h : Heading) (hb : b.Unbroken) (hl : b.language = .python)

include hl

private theorem pythonOpening_fits (purpose : String) :
    h.FitsAll pythonMarks (b.opening purpose) ↔ IsInline purpose := by
  simp (disch := first | (refine apart_ofList ?_; decide) | decide) [opening, originNote, hl,
    toString, String.append_assoc]

private theorem pythonKeyImports_fits : h.FitsAll pythonMarks b.keyImports := by
  simp (disch := (refine apart_ofList ?_; decide)) [keyImports, hl]

include hb

private theorem pythonSibling_fits (kind : Kind) : h.Fits pythonMarks (b.useSibling kind) := by
  have hsymbol := hb.symbol
  unfold useSibling Language.moduleName
  rw [hl]
  cases kind <;>
    simp (disch := (refine apart_ofList ?_; decide)) [hsymbol]

private theorem pythonContract_fits : (pythonHeading b).FitsAll pythonMarks (pythonContract b) := by
  have htable := hb.table
  have hsymbol := hb.symbol
  have hopening := pythonOpening_fits (pythonHeading b) hl
  have himports := pythonKeyImports_fits (pythonHeading b) hl
  have hsibling := pythonSibling_fits (pythonHeading b) hb hl
  have hdeclared : ∀ d ∈ b.operations,
      d.signature = pythonHead b.typeName b.key.type d.op ∧ IsInline d.doc := by
    intro d hd
    obtain ⟨hsignature, -, hdoc⟩ := hb.declared d hd
    rw [hsignature, signature, hl]
    exact ⟨(pythonHead_eq_signature ..).symm, hdoc⟩
  simpa (disch := first | (refine apart_ofList ?_; decide) | decide) [pythonContract, toString,
    String.append_assoc, htable, hsymbol, hopening, himports, hsibling] using hdeclared

omit hl

private theorem pythonBody_fits (op : Operation) : h.FitsAll pythonMarks (pythonBody b op) := by
  have hparam := hb.keyParam
  have hentry : ∀ f ∈ b.fields, IsInline f.column ∧ IsInline f.bind :=
    fun f hf => ⟨hb.fieldColumn f hf, hb.fieldBind f hf⟩
  have hinserted := fun f hf => hentry f (hb.inserted hf)
  have hupdated := fun f hf => hentry f (hb.updated hf)
  cases op <;>
    simp +contextual (disch := first | assumption | (refine apart_ofList ?_; decide)) [pythonBody,
      pythonCall, pythonEntry, pythonCommit, pythonKeyArgument, pythonFieldArgument, Argument.text,
      toString, String.append_assoc, hinserted, hupdated, hparam]

private theorem pythonStoreMethod_fits (op : Operation) :
    (pythonHeading b).FitsAll pythonMarks (pythonStoreMethod b op) := by
  have hbody := pythonBody_fits (pythonHeading b) hb op
  simp [pythonStoreMethod, hbody]

include hl

private theorem pythonStore_fits : (pythonHeading b).FitsAll pythonMarks (pythonStore b) := by
  have hname := isInline_of_isSolid hb.typeName
  have hsymbol := hb.symbol
  have hopening := pythonOpening_fits (pythonHeading b) hl
  have himports := pythonKeyImports_fits (pythonHeading b) hl
  have hsibling := pythonSibling_fits (pythonHeading b) hb hl
  have hmethod := pythonStoreMethod_fits hb
  have hstatements := hb.statements
  have hread : ∀ f ∈ b.fields, Quiet pythonMarks (f.name ++ ("=" ++ (f.read ++ ","))) := by
    intro f hf
    refine (quiet_name_append (hb.fieldName f hf) (by decide) _).mpr ?_
    exact (isInline_append _ _).mpr ⟨hb.fieldRead f hf, by decide⟩
  simpa (disch := first | (refine apart_ofList ?_; decide) | decide) [pythonStore, pythonConstant,
    toString, String.append_assoc, hname, hsymbol, hopening, himports, hsibling, hmethod,
    hstatements, Operation.all, List.intercalate] using hread

omit hl

private theorem pythonMockMethod_fits (op : Operation) :
    (pythonHeading b).FitsAll pythonMarks (pythonMockMethod b op) := by
  have hname := hb.keyName
  cases op <;>
    simp (disch := (refine apart_ofList ?_; decide)) [pythonMockMethod, pythonMockBody, toString,
      hname]

include hl

private theorem pythonMock_fits : (pythonHeading b).FitsAll pythonMarks (pythonMock b) := by
  have hname := isInline_of_isSolid hb.typeName
  have hkey := hb.keyType
  have hkeyName := hb.keyName
  have hcolumn := hb.keyColumn
  have hsymbol := hb.symbol
  have hopening := pythonOpening_fits (pythonHeading b) hl
  have himports := pythonKeyImports_fits (pythonHeading b) hl
  have hsibling := pythonSibling_fits (pythonHeading b) hb hl
  have hmethod := pythonMockMethod_fits hb
  simp (disch := first | (refine apart_ofList ?_; decide) | decide) [pythonMock, pythonMockStart,
    toString, String.append_assoc, hname, hkey, hkeyName, hcolumn, hsymbol, hopening, himports,
    hsibling, hmethod, Operation.all, List.intercalate]

end Fits

section Heads

private theorem heads_pythonContract :
    (heads (pythonContract b)).map Prod.fst = b.operations.map (·.op) := by
  simpa [pythonContract, List.map_flatMap] using List.map_eq_flatMap.symm

private theorem heads_pythonStore (hl : b.language = .python) :
    (heads (pythonStore b)).map Prod.fst = Operation.all := by
  have hmethod : ∀ op, heads (pythonStoreMethod b op) = [(op, b.signature op)] := by
    intro op
    simpa only [storeMethod, hl, heads_indent] using heads_storeMethod b op
  simp [pythonStore, pythonConstant, hmethod, Operation.all, List.intercalate]

private theorem heads_pythonMock : (heads (pythonMock b)).map Prod.fst = Operation.all := by
  simp [pythonMock, pythonMockStart, pythonMockMethod, pythonMockBody, Operation.all,
    List.intercalate]

end Heads

section Once

variable (hb : b.Unbroken) (hl : b.language = .python)

include hl

private theorem pythonHeading_eq : (⟨"", ":", b.signature⟩ : Heading) = pythonHeading b := by
  have hsignature : b.signature = pythonHead b.typeName b.key.type := by
    funext op
    rw [signature, hl, pythonHead_eq_signature]
  rw [hsignature, pythonHeading]

include hb

/-- Every operation is declared on one line of the contract. -/
theorem pythonContract_once (hops : b.operations.map (·.op) = Operation.all) (op : Operation) :
    HeadsOnce (render .python (pythonContract b)) (b.contractHeading.head op)
      b.contractHeading.trail := by
  have hheading : b.contractHeading = pythonHeading b := by
    rw [contractHeading, hl]
    exact pythonHeading_eq hl
  rw [hheading]
  exact headsOnce_render_of_fits .python (distinct_pythonHeading hb) (pythonContract_fits hb hl)
    (heads_pythonContract.trans hops) op

/-- Every operation is implemented behind one line of the store. The name of a field is arbitrary
    text without blanks, and the mark of a head has a blank. -/
theorem pythonStore_once (op : Operation) :
    HeadsOnce (render .python (pythonStore b)) (b.storeHeading.head op) b.storeHeading.trail := by
  have hheading : b.storeHeading = pythonHeading b := by
    rw [storeHeading, hl]
    exact pythonHeading_eq hl
  rw [hheading]
  exact headsOnce_render_of_fits .python (distinct_pythonHeading hb) (pythonStore_fits hb hl)
    (heads_pythonStore hl) op

/-- Every operation is implemented behind one line of the mock. -/
theorem pythonMock_once (op : Operation) :
    HeadsOnce (render .python (pythonMock b)) (b.mockHeading.head op) b.mockHeading.trail := by
  have hheading : b.mockHeading = pythonHeading b := by
    rw [mockHeading, hl]
    exact pythonHeading_eq hl
  rw [hheading]
  exact headsOnce_render_of_fits .python (distinct_pythonHeading hb) (pythonMock_fits hb hl)
    heads_pythonMock op

end Once

end Blueprint

end AccessLayer
