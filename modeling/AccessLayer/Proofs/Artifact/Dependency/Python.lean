import AccessLayer.Proofs.Artifact.Heading
import AccessLayer.Proofs.Source.Dependency

namespace AccessLayer

namespace Blueprint

open Line Text

variable {b : Blueprint}

private theorem pythonKeyImports_told (hl : b.language = .python) : Told .python b.keyImports := by
  simp (disch := decide) [keyImports, hl]

section Told

variable (hb : b.Unbroken)

include hb

private theorem quiet_pythonHead (op : Operation) {trail : String} (h : IsInline trail) :
    Quiet Language.python.openings (pythonHead b.typeName b.key.type op ++ trail) := by
  have hname := isInline_of_isSolid hb.typeName
  have hkey := hb.keyType
  unfold pythonHead
  cases op <;>
    simp (disch := first | (refine apart_ofList ?_; decide) | decide) [toString,
      String.append_assoc, hname, hkey, h]

private theorem pythonSibling_told (hl : b.language = .python) (kind : Kind) :
    Content.Told .python (b.useSibling kind) := by
  have hsymbol := hb.symbol kind
  unfold useSibling Language.moduleName
  rw [hl]
  constructor
  · cases kind <;> simp (disch := (refine apart_ofList ?_; decide)) [Content.written, hsymbol]
  · simp only [Content.written, String.append_assoc]
    exact Language.isReference_append (by decide) _

/-- Labels and types without line breaks are enough, as a field's line starts with its name. -/
theorem pythonModel_told (hl : b.language = .python)
    (htext : ∀ f ∈ b.fields, IsInline f.label ∧ IsInline f.type) :
    Told .python (pythonModel b) := by
  have htable := hb.table
  have hsymbol := hb.symbol
  have hfield : ∀ f ∈ b.fields, Content.Told .python (pythonField f).content := by
    intro f hf
    obtain ⟨hlabel, htype⟩ := htext f hf
    have hcolumn := hb.fieldColumn f hf
    have hdefault : IsInline (defaultValue f) := by
      unfold defaultValue
      split <;> decide
    have haliased :
        IsInline (((alias? f).map fun column => ", alias=\"" ++ (column ++ "\"")).getD "") := by
      unfold alias?
      split
      · decide
      · simp (disch := (refine apart_ofList ?_; decide)) [hcolumn]
    refine Or.inl ?_
    simp only [pythonField, Content.written, toString, String.append_assoc]
    refine (quiet_name_append (hb.fieldName f hf) (by decide) _).mpr ?_
    simp (disch := (refine apart_ofList ?_; decide)) [htype, hdefault, hlabel, haliased]
  simpa (disch := first | (refine apart_ofList ?_; decide) | decide) [pythonModel, opening,
    originNote, hl, toString, String.append_assoc, htable, hsymbol] using hfield

/-- The contract makes known what its tagged lines make known. -/
theorem pythonContract_told (hl : b.language = .python) : Told .python (pythonContract b) := by
  have htable := hb.table
  have hsymbol := hb.symbol
  have himports := pythonKeyImports_told hl
  have hsibling := pythonSibling_told hb hl
  have hdeclared : ∀ d ∈ b.operations,
      IsInline d.doc ∧ Quiet Language.python.openings (d.signature ++ ":") := by
    intro d hd
    obtain ⟨hsignature, -, hdoc⟩ := hb.declared d hd
    rw [hsignature, signature, hl, ← pythonHead_eq_signature]
    exact ⟨hdoc, quiet_pythonHead hb d.op (by decide)⟩
  simp +contextual (disch := first | assumption | (refine apart_ofList ?_; decide) | decide)
    [pythonContract, opening, originNote, hl, toString, String.append_assoc, htable, hsymbol,
      himports, hsibling, hdeclared]

private theorem pythonBody_told (op : Operation) : Told .python (pythonBody b op) := by
  have hparam := hb.keyParam
  have hentry : ∀ f ∈ b.fields, IsInline f.column ∧ IsInline f.bind :=
    fun f hf => ⟨hb.fieldColumn f hf, hb.fieldBind f hf⟩
  have hinserted := fun f hf => hentry f (hb.inserted hf)
  have hupdated := fun f hf => hentry f (hb.updated hf)
  cases op <;>
    simp +contextual (disch := first | assumption | (refine apart_ofList ?_; decide)) [pythonBody,
      pythonCall, pythonEntry, pythonCommit, pythonKeyArgument, pythonFieldArgument, Argument.text,
      toString, String.append_assoc, hinserted, hupdated, hparam]

/-- The store makes known what its tagged lines make known. -/
theorem pythonStore_told (hl : b.language = .python) : Told .python (pythonStore b) := by
  have hname := isInline_of_isSolid hb.typeName
  have hsymbol := hb.symbol
  have himports := pythonKeyImports_told hl
  have hsibling := pythonSibling_told hb hl
  have hmethod : ∀ op, Told .python (pythonStoreMethod b op) := by
    intro op
    have hbody := pythonBody_told hb op
    have hhead := quiet_pythonHead hb op (by decide : IsInline ":")
    simp [pythonStoreMethod, hbody, hhead]
  have hstatements := hb.statements
  have hread : ∀ f ∈ b.fields,
      Quiet Language.python.openings (f.name ++ ("=" ++ (f.read ++ ","))) := by
    intro f hf
    refine (quiet_name_append (hb.fieldName f hf) (by decide) _).mpr ?_
    exact (isInline_append _ _).mpr ⟨hb.fieldRead f hf, by decide⟩
  simp +contextual (disch := first | assumption | (refine apart_ofList ?_; decide) | decide)
    [pythonStore, pythonConstant, opening, originNote, hl, toString, String.append_assoc, hname,
      hsymbol, himports, hsibling, hmethod, hstatements, hread, Operation.all, List.intercalate]

/-- The mock makes known what its tagged lines make known. -/
theorem pythonMock_told (hl : b.language = .python) : Told .python (pythonMock b) := by
  have hname := isInline_of_isSolid hb.typeName
  have hkey := hb.keyType
  have hkeyName := hb.keyName
  have hcolumn := hb.keyColumn
  have hsymbol := hb.symbol
  have himports := pythonKeyImports_told hl
  have hsibling := pythonSibling_told hb hl
  have hmethod : ∀ op, Told .python (pythonMockMethod b op) := by
    intro op
    have hhead := quiet_pythonHead hb op (by decide : IsInline ":")
    have hbody : Told .python (pythonMockBody b op) := by
      cases op <;>
        simp (disch := (refine apart_ofList ?_; decide)) [pythonMockBody, toString, hkeyName]
    simp [pythonMockMethod, hbody, hhead]
  simp (disch := first | (refine apart_ofList ?_; decide) | decide) [pythonMock, pythonMockStart,
    opening, originNote, hl, toString, String.append_assoc, hname, hkey, hkeyName, hcolumn,
    hsymbol, himports, hsibling, hmethod, Operation.all, List.intercalate]

/-- The package of a table makes its modules known, and nothing else. -/
theorem pythonWiring_told (hl : b.language = .python) : Told .python (pythonWiring b) := by
  have htable := hb.table
  have hsymbol := hb.symbol
  have hsibling := pythonSibling_told hb hl
  simp (disch := first | (refine apart_ofList ?_; decide) | decide) [pythonWiring, opening,
    originNote, hl, toString, String.append_assoc, htable, hsymbol, hsibling]

end Told

end Blueprint

end AccessLayer
