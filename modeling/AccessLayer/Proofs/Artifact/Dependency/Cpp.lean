import AccessLayer.Proofs.Artifact.Heading
import AccessLayer.Proofs.Source.Dependency

namespace AccessLayer

namespace Blueprint

open Line Text

variable {b : Blueprint}

private theorem quiet_cppHead (hb : b.Unbroken) (op : Operation) {trail : String}
    (h : IsInline trail) :
    Quiet Language.cpp.openings (cppHead b.typeName b.key.type op ++ trail) := by
  have hname := isInline_of_isSolid hb.typeName
  have hkey := hb.keyType
  unfold cppHead
  cases op <;>
    simp (disch := first | (refine apart_ofList ?_; decide) | decide) [toString,
      String.append_assoc, hname, hkey, h]

private theorem silent_conditions {lead : String} (hlead : Apart Language.cpp.openings lead.toList)
    {conditions : List String} (h : ∀ c ∈ conditions, IsInline c) :
    Silent .cpp (lead ++ ("\n            && ".intercalate conditions ++ ";")) := by
  induction conditions generalizing lead with
  | nil => exact silent_of_quiet ((quiet_append hlead _).mpr (by decide))
  | cons first rest ih =>
    have hfirst : IsInline first := h first (by simp)
    cases rest with
    | nil =>
      rw [String.intercalate_singleton]
      exact silent_of_quiet ((quiet_append hlead _).mpr
        ((isInline_append _ _).mpr ⟨hfirst, by decide⟩))
    | cons second rest =>
      have hnext := ih (by decide : Apart Language.cpp.openings "            && ".toList)
        fun c hc => h c (by simp [hc])
      have hsplit : (lead ++ ("\n            && ".intercalate (first :: second :: rest) ++
          ";")).toList = (lead ++ first).toList ++ '\n' :: ("            && " ++
            ("\n            && ".intercalate (second :: rest) ++ ";")).toList := by
        simp
      intro row hrow
      rw [hsplit, rows_append_newline] at hrow
      rcases List.mem_append.mp hrow with hrow | hrow
      · exact silent_of_quiet ((quiet_append hlead _).mpr hfirst) row hrow
      · exact hnext row hrow

/-- The comparison of two entities takes a line for each field, and none of them includes
    anything. -/
theorem silent_cppEquality {fields : List Field} (h : ∀ f ∈ fields, IsInline f.name) :
    Silent .cpp (cppEquality fields) := by
  rw [cppEquality, String.append_assoc]
  refine silent_conditions (by decide) (List.forall_mem_map.mpr fun f hf => ?_)
  simp (disch := (refine apart_ofList ?_; decide)) [h f hf]

private theorem quiet_cppClosure_giving (captured result : String) :
    Quiet Language.cpp.openings (cppClosure captured (some result)) ↔
      IsInline captured ∧ IsInline result := by
  unfold cppClosure
  simp (disch := (refine apart_ofList ?_; decide)) [toString, String.append_assoc]

section Told

variable (hb : b.Unbroken)

include hb

/-- The file of a sibling is included by its name, which has no line breaks where the table's name
    has none. -/
theorem cppSibling_told (hl : b.language = .cpp) (kind : Kind) :
    Content.Told .cpp (b.includeSibling kind) := by
  have htable := hb.table
  have hfile : IsInline ((b.language.fileName? b.table kind).getD "") := by
    rw [hl]
    unfold Language.fileName?
    cases kind <;> simp (disch := (refine apart_ofList ?_; decide)) [Language.extension, htable]
  unfold includeSibling Language.headerFolder
  constructor
  · cases kind <;>
      simp (disch := (refine apart_ofList ?_; decide)) [Content.written, hfile]
  · simp only [Content.written, String.append_assoc]
    exact Language.isReference_append (by decide) _

/-- The types of the fields have to start with one of these letters, as the line of a field starts
    with its type and must not start like a directive. -/
theorem cppModel_told (hl : b.language = .cpp)
    (htext : ∀ f ∈ b.fields, IsInline f.label ∧ IsInline f.type ∧
      ∃ lead ∈ [['s'], ['i'], ['b'], ['n']], lead <+: f.type.toList) : Told .cpp (cppModel b) := by
  have htable := hb.table
  have hname := isInline_of_isSolid hb.typeName
  have hsymbol := hb.symbol
  have hequality := silent_cppEquality fun f hf => isInline_of_isSolid (hb.fieldName f hf)
  have hfield : ∀ f ∈ b.fields, Told .cpp (cppField f) := by
    intro f hf
    obtain ⟨hlabel, htype, lead, hlead, hstart⟩ := htext f hf
    have hfieldName := isInline_of_isSolid (hb.fieldName f hf)
    have hline : Quiet Language.cpp.openings (f.type ++ (" " ++ (f.name ++ ";"))) := by
      refine quiet_of_start (hstart.trans ?_) ((by decide :
        ∀ lead ∈ [['s'], ['i'], ['b'], ['n']], Apart Language.cpp.openings lead) lead hlead) ?_
      · rw [String.toList_append]
        exact List.prefix_append _ _
      · simp (disch := (refine apart_ofList ?_; decide)) [htype, hfieldName]
    simp (disch := first | (refine apart_ofList ?_; decide) | decide) [cppField, toString,
      String.append_assoc, hlabel, hline]
  simpa (disch := first | (refine apart_ofList ?_; decide) | decide) [cppModel, opening,
    originNote, hl, toString, String.append_assoc, htable, hname, hsymbol, hequality] using hfield

/-- The header of the contract makes known what its tagged lines make known. -/
theorem cppContract_told (hl : b.language = .cpp) : Told .cpp (cppContract b) := by
  have htable := hb.table
  have hsymbol := hb.symbol
  have hsibling := cppSibling_told hb hl
  have hdeclared : ∀ d ∈ b.operations, IsInline d.doc ∧ IsInline d.signature := by
    intro d hd
    obtain ⟨hsignature, -, hdoc⟩ := hb.declared d hd
    have hhead := (quiet_cppHead hb d.op (by decide : IsInline "")).1
    rw [cppHead_eq_signature, String.append_empty] at hhead
    rw [hsignature, signature, hl]
    exact ⟨hdoc, hhead⟩
  simp +contextual (disch := first | assumption | (refine apart_ofList ?_; decide) | decide)
    [cppContract, opening, originNote, hl, toString, String.append_assoc, htable, hsymbol,
      hsibling, hdeclared]

omit hb in
private theorem cppCall_told {opening : String} {values : List String}
    (hopening : Quiet Language.cpp.openings (opening ++ ","))
    (hvalues : ∀ v ∈ values, Quiet Language.cpp.openings (v ++ ",") ∧
      Quiet Language.cpp.openings (v ++ ");")) : Told .cpp (cppCall opening values) := by
  rcases List.eq_nil_or_concat values with rfl | ⟨before, last, rfl⟩
  · simp [cppCall, toString, hopening]
  · have hbefore : ∀ v ∈ before, Quiet Language.cpp.openings (v ++ ",") :=
      fun v hv => (hvalues v (by simp [hv])).1
    have hlast := (hvalues last (by simp)).2
    simp +contextual [cppCall, toString, Argument.text, hopening, hlast, hbefore]

private theorem cppTask_told (op : Operation) : Told .cpp (cppTask b op) := by
  have hname := isInline_of_isSolid hb.typeName
  have hkey := hb.keyType
  have hread := hb.keyRead
  have hpassed : ∀ f ∈ b.fields, Quiet Language.cpp.openings (f.bind ++ ",") ∧
      Quiet Language.cpp.openings (f.bind ++ ");") := fun f hf =>
    ⟨hb.quiet_bind (by decide) hf (by decide), hb.quiet_bind (by decide) hf (by decide)⟩
  have hinserted : Told .cpp (cppCall "pqxx::result result = txn.exec_params(INSERT"
      (b.queries.insertFields.map (·.bind))) := by
    refine cppCall_told (by decide) (List.forall_mem_map.mpr fun f hf => ?_)
    exact hpassed f (hb.inserted hf)
  have hupdated : Told .cpp (cppCall "txn.exec_params(UPDATE"
      (b.queries.updateFields.map (·.bind) ++ ["id"])) := by
    refine cppCall_told (by decide) (List.forall_mem_append.mpr ⟨?_, ?_⟩)
    · exact List.forall_mem_map.mpr fun f hf => hpassed f (hb.updated hf)
    · exact List.forall_mem_singleton.mpr ⟨by decide, by decide⟩
  cases op <;>
    simp (disch := first | (refine apart_ofList ?_; decide) | decide) [cppTask, cppLockAndBegin,
      cppCommit, quiet_cppClosure_giving, Argument.text, toString, String.append_assoc,
      hname, hkey, hread, hinserted, hupdated]

/-- The header of the store makes known what its tagged lines make known, with or without the
    helpers for timestamps. -/
theorem cppStore_told (hl : b.language = .cpp) : Told .cpp (cppStore b) := by
  have hname := isInline_of_isSolid hb.typeName
  have hsymbol := hb.symbol
  have hsibling := cppSibling_told hb hl
  have hhelpers : Told .cpp timestampHelpers := by
    simp (disch := first | (refine apart_ofList ?_; decide) | decide) [timestampHelpers]
  have hmethod : ∀ op, Told .cpp (cppStoreMethod b op) := by
    intro op
    have htask := cppTask_told hb op
    have hhead := quiet_cppHead hb op (by decide : IsInline " override \x7b")
    simp (disch := (refine apart_ofList ?_; decide)) [cppStoreMethod, htask, hhead]
  have hstatements := hb.statements
  have hread : ∀ f ∈ b.fields, IsInline f.name ∧ IsInline f.read :=
    fun f hf => ⟨isInline_of_isSolid (hb.fieldName f hf), hb.fieldRead f hf⟩
  simp +contextual (disch := first | assumption | (refine apart_ofList ?_; decide) | decide)
    [cppStore, cppConstant, opening, originNote, hl, toString, String.append_assoc, hname, hsymbol,
      hsibling, hhelpers, hmethod, hstatements, hread, Operation.all, List.intercalate]

/-- The header of the mock makes known what its tagged lines make known. The line of its constructor
    starts with the name of the class. -/
theorem cppMock_told (hl : b.language = .cpp) : Told .cpp (cppMock b) := by
  have hname := isInline_of_isSolid hb.typeName
  have hkey := hb.keyType
  have hkeyName := hb.keyName
  have hcolumn := hb.keyColumn
  have hsymbol := hb.symbol
  have hsibling := cppSibling_told hb hl
  have hmethod : ∀ op, Told .cpp (cppMockMethod b op) := by
    intro op
    have hhead := quiet_cppHead hb op (by decide : IsInline " override \x7b")
    have hbody : Told .cpp (cppMockBody b op) := by
      cases op <;>
        simp (disch := (refine apart_ofList ?_; decide)) [cppMockBody, cppGuard, toString,
          String.append_assoc, hname, hkeyName]
    simp (disch := (refine apart_ofList ?_; decide)) [cppMockMethod, hbody, hhead]
  have hconstructor : Quiet Language.cpp.openings (b.symbol .mock ++ "() = default;") := by
    unfold symbol Language.symbol
    simp (disch := first | (refine apart_ofList ?_; decide) | decide) [hl, String.append_assoc,
      hname]
  simp (disch := first | (refine apart_ofList ?_; decide) | decide) [cppMock, cppReady, opening,
    originNote, hl, toString, String.append_assoc, hname, hkey, hkeyName, hcolumn, hsymbol,
    hsibling, hmethod, hconstructor, Operation.all, List.intercalate]

end Told

end Blueprint

end AccessLayer
