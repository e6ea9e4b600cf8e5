import AccessLayer.Proofs.Artifact.Heading
import AccessLayer.Proofs.Language.Names
import AccessLayer.Proofs.Source.Dependency

namespace AccessLayer

namespace Blueprint

open Line Text

variable {b : Blueprint}

private theorem startsSolid_append {name : List Char} (hname : IsSolid name) {more : List Char}
    (hmore : StartsSolid more) : StartsSolid (name ++ more) := by
  cases name with
  | nil => exact hmore
  | cons c cs => exact StartsSolid.cons (hname c (by simp)) _

/-- A public field is told from what is published by the colon behind its name. -/
theorem quiet_rustField {name rest : String} (hname : IsSolid name.toList) (hrest : IsInline rest) :
    Quiet Language.rust.openings ("pub " ++ (name ++ (": " ++ rest))) := by
  have hbehind : Quiet ["use ".toList, "mod ".toList] (name ++ (": " ++ rest)) :=
    (quiet_name_append hname (by decide) rest).mpr hrest
  obtain ⟨hinline, hapart⟩ := hbehind
  have hsolid : StartsSolid (name ++ (": " ++ rest)).toList := by
    rw [String.toList_append, String.toList_append]
    exact startsSolid_append hname (StartsSolid.append (by decide) (by decide) _)
  have hrow : ("pub " ++ (name ++ (": " ++ rest))).toList.dropWhile isBlank =
      "pub ".toList ++ (name ++ (": " ++ rest)).toList := by
    rw [String.toList_append]
    exact StartsSolid.append (by decide) (by decide) _
  refine ⟨(isInline_append _ _).mpr ⟨by decide, hinline⟩, ?_⟩
  rw [hsolid] at hapart
  rw [hrow]
  have hmarks : Language.rust.openings = "use ".toList ::
      ["use ".toList, "mod ".toList].map ("pub ".toList ++ ·) := by decide
  rw [hmarks, List.forall_mem_cons, List.forall_mem_map]
  refine ⟨?_, fun m hm hstarts => hapart m hm ?_⟩
  · exact (by decide : Diverge "use ".toList "pub ".toList).not_starts [] _
  · exact (List.prefix_append_right_inj _).mp hstarts

/-- The name of a type does not start like a word of the language. -/
theorem quiet_rustValue {table : String} (h : IsSolid (Name.typeName table).toList) :
    Quiet Language.rust.openings (Name.typeName table ++ " \x7b") := by
  refine ⟨(isInline_append _ _).mpr ⟨isInline_of_isSolid h, by decide⟩, fun m hm hstarts => ?_⟩
  have hsmall : ∀ m ∈ Language.rust.openings, m.head?.any (inSpans smallSpans) = true := by decide
  rw [String.toList_append] at hstarts
  cases hchars : (Name.typeName table).toList with
  | nil =>
    have hbrace : ∀ m ∈ Language.rust.openings, ¬ m <+: " \x7b".toList.dropWhile isBlank := by
      decide
    rw [hchars] at hstarts
    exact hbrace m hm hstarts
  | cons c cs =>
    have hlarge := Name.head_typeName (by rw [hchars]; rfl : (Name.typeName table).toList.head? = c)
    rw [hchars] at h hstarts
    rw [List.cons_append, StartsSolid.cons (h c (by simp)) _] at hstarts
    have hfirst := hsmall m hm
    cases m with
    | nil => cases hfirst
    | cons d ds =>
      obtain ⟨rfl, -⟩ := List.cons_prefix_cons.mp hstarts
      rw [List.head?_cons, Option.any_some, hlarge] at hfirst
      cases hfirst

private theorem quiet_rustHead (hb : b.Unbroken) (op : Operation) {trail : String}
    (h : IsInline trail) :
    Quiet Language.rust.openings (rustHead b.typeName b.key.type op ++ trail) := by
  have hname := isInline_of_isSolid hb.typeName
  have hkey := hb.keyType
  unfold rustHead
  cases op <;>
    simp (disch := first | (refine apart_ofList ?_; decide) | decide) [toString,
      String.append_assoc, hname, hkey, h]

section Told

variable (hb : b.Unbroken)

private theorem rustKeyImports_told (hl : b.language = .rust) : Told .rust b.keyImports := by
  simp (disch := decide) [keyImports, hl]

include hb

private theorem rustSibling_told (hl : b.language = .rust) {kind : Kind} (h : kind ≠ .wiring) :
    Content.Told .rust (b.useSibling kind) := by
  have hsymbol := hb.symbol kind
  unfold useSibling Language.moduleName
  rw [hl]
  constructor
  · cases kind <;> simp (disch := (refine apart_ofList ?_; decide)) [Content.written, hsymbol]
  · cases kind <;> try exact absurd rfl h
    all_goals
      simp only [Content.written, String.append_assoc]
      rw [← String.append_assoc]
      exact Language.isReference_append (by decide) _

/-- Labels and types without line breaks are enough, as a field's line starts with a word of its
    own. -/
theorem rustModel_told (hl : b.language = .rust)
    (htext : ∀ f ∈ b.fields, IsInline f.label ∧ IsInline f.type) : Told .rust (rustModel b) := by
  have htable := hb.table
  have hsymbol := hb.symbol
  have hfield : ∀ f ∈ b.fields, Told .rust (rustField f) := by
    intro f hf
    obtain ⟨hlabel, htype⟩ := htext f hf
    have hcolumn := hb.fieldColumn f hf
    have hline := quiet_rustField (hb.fieldName f hf)
      ((isInline_append f.type ",").mpr ⟨htype, by decide⟩)
    unfold rustField rename?
    split <;>
      simp (disch := first | (refine apart_ofList ?_; decide) | decide) [toString,
        String.append_assoc, hlabel, hline, hcolumn]
  simpa (disch := first | (refine apart_ofList ?_; decide) | decide) [rustModel, opening,
    originNote, hl, toString, String.append_assoc, htable, hsymbol] using hfield

/-- The contract makes known what its tagged lines make known. -/
theorem rustContract_told (hl : b.language = .rust) : Told .rust (rustContract b) := by
  have htable := hb.table
  have hsymbol := hb.symbol
  have himports := rustKeyImports_told hl
  have hsibling := rustSibling_told hb hl (by decide : Kind.model ≠ .wiring)
  have hdeclared : ∀ d ∈ b.operations,
      IsInline d.doc ∧ Quiet Language.rust.openings (d.signature ++ ";") := by
    intro d hd
    obtain ⟨hsignature, -, hdoc⟩ := hb.declared d hd
    rw [hsignature, signature, hl, ← rustHead_eq_signature]
    exact ⟨hdoc, quiet_rustHead hb d.op (by decide)⟩
  simp +contextual (disch := first | assumption | (refine apart_ofList ?_; decide) | decide)
    [rustContract, opening, originNote, hl, toString, String.append_assoc, htable, hsymbol,
      himports, hsibling, hdeclared]

private theorem rustBody_told (op : Operation) : Told .rust (rustBody b op) := by
  have hcolumn := hb.keyColumn
  have hinserted := fun f hf => hb.fieldBind f (hb.inserted hf)
  have hupdated := fun f hf => hb.fieldBind f (hb.updated hf)
  cases op <;>
    simp +contextual (disch := first | assumption | (refine apart_ofList ?_; decide)) [rustBody,
      rustBound, rustAwaited, rustChecked, Argument.text, toString, String.append_assoc, hcolumn,
      hinserted, hupdated]

/-- The store makes known what its tagged lines make known. -/
theorem rustStore_told (hl : b.language = .rust) : Told .rust (rustStore b) := by
  have hname := isInline_of_isSolid hb.typeName
  have hsymbol := hb.symbol
  have himports := rustKeyImports_told hl
  have hcontract := rustSibling_told hb hl (by decide : Kind.contract ≠ .wiring)
  have hmodel := rustSibling_told hb hl (by decide : Kind.model ≠ .wiring)
  have hmethod : ∀ op, Told .rust (rustStoreMethod b op) := by
    intro op
    have hbody := rustBody_told hb op
    have hhead := quiet_rustHead hb op (by decide : IsInline " \x7b")
    simp (disch := (refine apart_ofList ?_; decide)) [rustStoreMethod, hbody, hhead]
  have hstatements := hb.statements
  have hread : ∀ f ∈ b.fields,
      Quiet Language.rust.openings (f.name ++ (": " ++ (f.read ++ ","))) := by
    intro f hf
    refine (quiet_name_append (hb.fieldName f hf) (by decide) _).mpr ?_
    exact (isInline_append _ _).mpr ⟨hb.fieldRead f hf, by decide⟩
  simp +contextual (disch := first | assumption | (refine apart_ofList ?_; decide) | decide)
    [rustStore, rustConstant, opening, originNote, hl, toString, String.append_assoc, hname,
      hsymbol, himports, hcontract, hmodel, hmethod, hstatements, hread, Operation.all,
      List.intercalate]

private theorem rustMockMethod_told (op : Operation) : Told .rust (rustMockMethod b op) := by
  have hname := hb.keyName
  have hhead := quiet_rustHead hb op (by decide : IsInline " \x7b")
  have hbody : Told .rust (rustMockBody b op) := by
    cases op <;>
      simp (disch := (refine apart_ofList ?_; decide)) [rustMockBody, toString,
        String.append_assoc, hname]
  simp (disch := (refine apart_ofList ?_; decide)) [rustMockMethod, hbody, hhead]

/-- The tests see all of the module around them, and that is no reference to a sibling. -/
theorem rustTests_told (htype : b.typeName = Name.typeName b.table) : Told .rust (rustTests b) := by
  have hname := isInline_of_isSolid hb.typeName
  have hkeyName := hb.keyName
  have hsymbol := hb.symbol
  have henclosing : Silent .rust "use super::*;" := by decide
  have hvalue : Quiet Language.rust.openings (b.typeName ++ " \x7b") := by
    have hsolid := hb.typeName
    rw [htype] at hsolid ⊢
    exact quiet_rustValue hsolid
  have hsample : ∀ f ∈ b.fields,
      Quiet Language.rust.openings (f.name ++ (": " ++ (f.sample ++ ","))) := by
    intro f hf
    refine (quiet_name_append (hb.fieldName f hf) (by decide) _).mpr ?_
    exact (isInline_append _ _).mpr ⟨hb.fieldSample f hf, by decide⟩
  simp +contextual (disch := first | assumption | (refine apart_ofList ?_; decide) | decide)
    [rustTests, testImports, rustTest, toString, String.append_assoc, hname, hkeyName, hsymbol,
      henclosing, hvalue, hsample]

/-- The mock makes known what its tagged lines make known. Its tests are full of entities whose type
    starts a line, so the type has to have the name that is derived from the table's. -/
theorem rustMock_told (hl : b.language = .rust) (htype : b.typeName = Name.typeName b.table) :
    Told .rust (rustMock b) := by
  have hname := isInline_of_isSolid hb.typeName
  have hkey := hb.keyType
  have hkeyName := hb.keyName
  have hcolumn := hb.keyColumn
  have hsymbol := hb.symbol
  have himports := rustKeyImports_told hl
  have hcontract := rustSibling_told hb hl (by decide : Kind.contract ≠ .wiring)
  have hmodel := rustSibling_told hb hl (by decide : Kind.model ≠ .wiring)
  have hmethod := rustMockMethod_told hb
  have htests := rustTests_told hb htype
  simp (disch := first | (refine apart_ofList ?_; decide) | decide) [rustMock, rustMockBasics,
    opening, originNote, hl, toString, String.append_assoc, hname, hkey, hkeyName, hcolumn,
    hsymbol, himports, hcontract, hmodel, hmethod, htests, Operation.all, List.intercalate]

/-- The module of a table makes its files known, and nothing else. -/
theorem rustWiring_told (hl : b.language = .rust) : Told .rust (rustWiring b) := by
  have htable := hb.table
  have hsymbol := hb.symbol
  have howned : ∀ kind, Content.Told .rust
      (.refers kind "pub mod " (Language.rust.moduleName kind) none ";") := by
    intro kind
    unfold Language.moduleName
    constructor
    · cases kind <;> decide
    · cases kind <;> decide
  have hexported : ∀ kind, Content.Told .rust (.refers kind "pub use "
      (Language.rust.moduleName kind) (some ("::", b.symbol kind)) ";") := by
    intro kind
    unfold Language.moduleName
    constructor
    · cases kind <;> simp (disch := (refine apart_ofList ?_; decide)) [Content.written, hsymbol]
    · simp only [Content.written, String.append_assoc]
      exact Language.isReference_append (by decide) _
  simp (disch := first | (refine apart_ofList ?_; decide) | decide) [rustWiring,
    opening, originNote, hl, toString, String.append_assoc, htable, howned, hexported]

end Told

end Blueprint

end AccessLayer
