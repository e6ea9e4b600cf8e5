import AccessLayer.Proofs.Artifact.Heading

namespace AccessLayer

namespace Blueprint

open Line Heading Text

/-- With one of these the heads start, and no other line does; tests are asynchronous functions,
    too. -/
def rustMarks : List (List Char) :=
  [['f'], ['c', 'r', 'e', 'a', 't', 'e', '('], ['u'], ['d', 'e', 'l', 'e', 't', 'e', '(']].map
    fun name => ['a', 's', 'y', 'n', 'c', ' ', 'f', 'n', ' '] ++ name

/-- The heads of the methods where `trail` follows a signature. -/
@[simps]
def rustHeading (b : Blueprint) (trail : String) : Heading :=
  ⟨"", trail, rustHead b.typeName b.key.type⟩

variable {b : Blueprint}

private theorem distinct_rustHeading (hb : b.Unbroken) {trail : String} (htrail : IsInline trail) :
    (rustHeading b trail).Distinct rustMarks where
  inline op := by
    have hname := isInline_of_isSolid hb.typeName
    have hkey := hb.keyType
    unfold rustHeading head rustHead
    cases op <;>
      simp (disch := (refine notMem_ofList ?_; decide)) [toString, isInline_of_notMem, hname, hkey,
        htrail]
  solid := by decide
  marked op := by
    unfold rustHeading head rustHead
    cases op <;>
      · simp only [toString, String.append_assoc, String.empty_append]
        exact exists_starts_ofList (by decide) _
  apart op op' hop := by
    unfold rustHeading rustHead
    cases op <;> cases op' <;> try exact absurd rfl hop
    all_goals
      simp only [toString, String.append_assoc]
      exact not_starts_ofList (by decide) _ _

section Fits

variable (h : Heading) (hb : b.Unbroken) (hl : b.language = .rust)

include hl

private theorem rustOpening_fits (purpose : String) :
    h.FitsAll rustMarks (b.opening purpose) ↔ IsInline purpose := by
  simp (disch := first | (refine apart_ofList ?_; decide) | decide) [opening, originNote, hl,
    toString, String.append_assoc]

private theorem rustKeyImports_fits : h.FitsAll rustMarks b.keyImports := by
  simp (disch := (refine apart_ofList ?_; decide)) [keyImports, hl]

omit hl

private theorem rustConstant_fits (name : String) (s : Statement) :
    h.Fits rustMarks (rustConstant name s).content ↔ IsInline name ∧ IsInline s.text := by
  simp (disch := (refine apart_ofList ?_; decide)) [rustConstant, toString, String.append_assoc]

include hb

include hl

private theorem rustSibling_fits (kind : Kind) : h.Fits rustMarks (b.useSibling kind) := by
  have hsymbol := hb.symbol
  unfold useSibling Language.moduleName
  rw [hl]
  cases kind <;>
    simp (disch := (refine apart_ofList ?_; decide)) [String.append_assoc, hsymbol]

private theorem rustContract_fits : (rustHeading b ";").FitsAll rustMarks (rustContract b) := by
  have htable := hb.table
  have hsymbol := hb.symbol
  have hopening := rustOpening_fits (rustHeading b ";") hl
  have himports := rustKeyImports_fits (rustHeading b ";") hl
  have hsibling := rustSibling_fits (rustHeading b ";") hb hl
  have hdeclared : ∀ d ∈ b.operations,
      IsInline d.doc ∧ d.signature = rustHead b.typeName b.key.type d.op := by
    intro d hd
    obtain ⟨hsignature, -, hdoc⟩ := hb.declared d hd
    rw [hsignature, signature, hl]
    exact ⟨hdoc, (rustHead_eq_signature ..).symm⟩
  simpa (disch := first | (refine apart_ofList ?_; decide) | decide) [rustContract, toString,
    String.append_assoc, htable, hsymbol, hopening, himports, hsibling] using hdeclared

omit hl

private theorem rustBody_fits (op : Operation) : h.FitsAll rustMarks (rustBody b op) := by
  have hcolumn := hb.keyColumn
  have hinserted := fun f hf => hb.fieldBind f (hb.inserted hf)
  have hupdated := fun f hf => hb.fieldBind f (hb.updated hf)
  cases op <;>
    simp +contextual (disch := first | assumption | (refine apart_ofList ?_; decide)) [rustBody,
      rustBound, rustAwaited, rustChecked, Argument.text, toString, String.append_assoc, hcolumn,
      hinserted, hupdated]

private theorem rustStoreMethod_fits (op : Operation) :
    (rustHeading b " \x7b").FitsAll rustMarks (rustStoreMethod b op) := by
  have hbody := rustBody_fits (rustHeading b " \x7b") hb op
  simp (disch := (refine apart_ofList ?_; decide)) [rustStoreMethod, hbody]

include hl

private theorem rustStore_fits : (rustHeading b " \x7b").FitsAll rustMarks (rustStore b) := by
  have hname := isInline_of_isSolid hb.typeName
  have hsymbol := hb.symbol
  have hopening := rustOpening_fits (rustHeading b " \x7b") hl
  have himports := rustKeyImports_fits (rustHeading b " \x7b") hl
  have hsibling := rustSibling_fits (rustHeading b " \x7b") hb hl
  have hmethod := rustStoreMethod_fits hb
  have hconstant := rustConstant_fits (rustHeading b " \x7b")
  have hstatements := hb.statements
  have hread : ∀ f ∈ b.fields, Quiet rustMarks (f.name ++ (": " ++ (f.read ++ ","))) := by
    intro f hf
    refine (quiet_name_append (hb.fieldName f hf) (by decide) _).mpr ?_
    exact (isInline_append _ _).mpr ⟨hb.fieldRead f hf, by decide⟩
  simpa (disch := first | (refine apart_ofList ?_; decide) | decide) [rustStore, toString,
    String.append_assoc, hname, hsymbol, hopening, himports, hsibling, hmethod, hconstant,
    hstatements, Operation.all, List.intercalate] using hread

omit hl

private theorem rustMockMethod_fits (op : Operation) :
    (rustHeading b " \x7b").FitsAll rustMarks (rustMockMethod b op) := by
  have hname := hb.keyName
  cases op <;>
    simp (disch := (refine apart_ofList ?_; decide)) [rustMockMethod, rustMockBody, toString,
      String.append_assoc, hname]

private theorem rustMockBasics_fits : h.FitsAll rustMarks (rustMockBasics b) := by
  have hname := isInline_of_isSolid hb.typeName
  have hkey := hb.keyType
  have hkeyName := hb.keyName
  simp (disch := first | (refine apart_ofList ?_; decide) | decide) [rustMockBasics, toString,
    String.append_assoc, hname, hkey, hkeyName]

/-- The tests are asynchronous functions whose names start with those of operations. -/
theorem rustTests_fits : h.FitsAll rustMarks (rustTests b) := by
  have hname := isInline_of_isSolid hb.typeName
  have hkeyName := hb.keyName
  have hsymbol := hb.symbol
  have hvalue : Quiet rustMarks (b.typeName ++ " \x7b") := quiet_name hb.typeName (by decide)
  have hsample : ∀ f ∈ b.fields, Quiet rustMarks (f.name ++ (": " ++ (f.sample ++ ","))) := by
    intro f hf
    refine (quiet_name_append (hb.fieldName f hf) (by decide) _).mpr ?_
    exact (isInline_append _ _).mpr ⟨hb.fieldSample f hf, by decide⟩
  simpa (disch := first | (refine apart_ofList ?_; decide) | decide) [rustTests, testImports,
    rustTest, toString, String.append_assoc, hname, hkeyName, hsymbol, hvalue] using hsample

include hl

private theorem rustMock_fits : (rustHeading b " \x7b").FitsAll rustMarks (rustMock b) := by
  have hname := isInline_of_isSolid hb.typeName
  have hkey := hb.keyType
  have hcolumn := hb.keyColumn
  have hsymbol := hb.symbol
  have hopening := rustOpening_fits (rustHeading b " \x7b") hl
  have himports := rustKeyImports_fits (rustHeading b " \x7b") hl
  have hsibling := rustSibling_fits (rustHeading b " \x7b") hb hl
  have hbasics := rustMockBasics_fits (rustHeading b " \x7b") hb
  have hmethod := rustMockMethod_fits hb
  have htests := rustTests_fits (rustHeading b " \x7b") hb
  simp (disch := first | (refine apart_ofList ?_; decide) | decide) [rustMock, toString,
    String.append_assoc, hname, hkey, hcolumn, hsymbol, hopening, himports, hsibling, hbasics,
    hmethod, htests, Operation.all, List.intercalate]

end Fits

section Heads

private theorem heads_rustContract :
    (heads (rustContract b)).map Prod.fst = b.operations.map (·.op) := by
  simpa [rustContract, List.map_flatMap] using List.map_eq_flatMap.symm

private theorem heads_rustStore (hl : b.language = .rust) :
    (heads (rustStore b)).map Prod.fst = Operation.all := by
  have hmethod : ∀ op, heads (rustStoreMethod b op) = [(op, b.signature op)] := by
    intro op
    simpa only [storeMethod, hl, heads_indent] using heads_storeMethod b op
  simp [rustStore, rustConstant, hmethod, Operation.all, List.intercalate]

private theorem heads_rustMock : (heads (rustMock b)).map Prod.fst = Operation.all := by
  simp [rustMock, rustMockMethod, rustMockBody, rustMockBasics, rustTests, rustTest, testImports,
    Operation.all, List.intercalate]

end Heads

private theorem rustHeading_eq (hl : b.language = .rust) (trail : String) :
    (⟨"", trail, b.signature⟩ : Heading) = rustHeading b trail := by
  have hsignature : b.signature = rustHead b.typeName b.key.type := by
    funext op
    rw [signature, hl, rustHead_eq_signature]
  rw [hsignature, rustHeading]

section Once

variable (hb : b.Unbroken) (hl : b.language = .rust)

include hb hl

/-- Every operation is declared on one line of the contract. -/
theorem rustContract_once (hops : b.operations.map (·.op) = Operation.all) (op : Operation) :
    HeadsOnce (render .rust (rustContract b)) (b.contractHeading.head op)
      b.contractHeading.trail := by
  have hheading : b.contractHeading = rustHeading b ";" := by
    rw [contractHeading, hl]
    exact rustHeading_eq hl ";"
  rw [hheading]
  exact headsOnce_render_of_fits .rust (distinct_rustHeading hb (by decide))
    (rustContract_fits hb hl) (heads_rustContract.trans hops) op

/-- Every operation is implemented behind one line of the store. The name of a field is arbitrary
    text without blanks, and marks have blanks. -/
theorem rustStore_once (op : Operation) :
    HeadsOnce (render .rust (rustStore b)) (b.storeHeading.head op) b.storeHeading.trail := by
  have hheading : b.storeHeading = rustHeading b " \x7b" := by
    rw [storeHeading, hl]
    exact rustHeading_eq hl " \x7b"
  rw [hheading]
  exact headsOnce_render_of_fits .rust (distinct_rustHeading hb (by decide))
    (rustStore_fits hb hl) (heads_rustStore hl) op

/-- Every operation is implemented behind one line of the mock, although its tests are asynchronous
    functions too and are called after operations. -/
theorem rustMock_once (op : Operation) :
    HeadsOnce (render .rust (rustMock b)) (b.mockHeading.head op) b.mockHeading.trail := by
  have hheading : b.mockHeading = rustHeading b " \x7b" := by
    rw [mockHeading, hl]
    exact rustHeading_eq hl " \x7b"
  rw [hheading]
  exact headsOnce_render_of_fits .rust (distinct_rustHeading hb (by decide))
    (rustMock_fits hb hl) heads_rustMock op

end Once

end Blueprint

end AccessLayer
