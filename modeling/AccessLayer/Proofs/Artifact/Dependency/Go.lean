import AccessLayer.Proofs.Artifact.Heading
import AccessLayer.Proofs.Source.Dependency

namespace AccessLayer

namespace Blueprint

open Line Text

variable {b : Blueprint}

/-- A line with a blank between its words is no import, even where it starts with a quote. -/
theorem silent_of_blank {s : String} (front back : List Char) (hs : s.toList = front ++ back)
    (hinline : IsInline s) (hsolid : StartsSolid back)
    (hblank : ∃ c ∈ back, isBlank c = true) : Silent .go s := by
  intro row hrow
  rw [rows_of_not_mem hinline] at hrow
  obtain rfl := List.mem_singleton.mp hrow
  have hsuffix : back <:+ s.toList.dropWhile isBlank := by
    rw [hs, List.dropWhile_append]
    split
    · rw [hsolid]
    · exact List.suffix_append _ back
  obtain ⟨c, hc, hblank⟩ := hblank
  have hall : (s.toList.dropWhile isBlank).all (!isBlank ·) = false := by
    rw [List.all_eq_false]
    exact ⟨c, hsuffix.subset hc, by simp [hblank]⟩
  exact ⟨by simp [Language.isImport, hall], rfl⟩

private theorem quiet_goHead (hb : b.Unbroken) {ctx : String} (hctx : IsInline ctx) (op : Operation)
    {trail : String} (h : IsInline trail) :
    Quiet Language.go.openings (goHead ctx b.typeName b.key.type op ++ trail) := by
  have hname := isInline_of_isSolid hb.typeName
  have hkey := hb.keyType
  unfold goHead
  cases op <;>
    simp (disch := first | (refine apart_ofList ?_; decide) | decide) [toString,
      String.append_assoc, hctx, hname, hkey, h]

private theorem goKeyImports_told (hl : b.language = .go) : Told .go b.keyImports := by
  simp (disch := first | (refine apart_ofList ?_; decide) | decide) [keyImports, hl]

section Told

variable (hb : b.Unbroken)

include hb

/-- The opening is left out, since it holds the name of the service, which is arbitrary text; what
    is behind it is told from imports by its quotes and blanks. -/
theorem goModel_told
    (htext : ∀ f ∈ b.fields, IsInline f.label ∧ IsInline f.type) :
    ∃ tail, goModel b = b.opening "" ++ tail ∧ Told .go tail := by
  have htable := hb.table
  have hname := isInline_of_isSolid hb.typeName
  have hsymbol := hb.symbol
  have hfield : ∀ f ∈ b.fields, Told .go (goField f) := by
    intro f hf
    obtain ⟨hlabel, htype⟩ := htext f hf
    have hcolumn := hb.fieldColumn f hf
    have hfieldName := isInline_of_isSolid (hb.fieldName f hf)
    have hline : Silent .go (f.name ++ (" " ++ (f.type ++ (" " ++ tags f)))) := by
      refine silent_of_blank (f.name ++ (" " ++ (f.type ++ " "))).toList (tags f).toList
        (by simp) ?_ ?_ ⟨' ', ?_, by decide⟩
      · simp (disch := (refine apart_ofList ?_; decide)) [tags, hcolumn, hfieldName, htype]
      · rw [tags, String.append_assoc, String.append_assoc, String.append_assoc,
          String.toList_append]
        exact StartsSolid.append (by decide) (by decide) _
      · simp [tags]
    simp (disch := first | (refine apart_ofList ?_; decide) | decide) [goField, toString,
      String.append_assoc, hlabel, hline]
  refine ⟨_, rfl, ?_⟩
  simpa (disch := first | (refine apart_ofList ?_; decide) | decide) [toString,
    String.append_assoc, htable, hname, hsymbol] using hfield

/-- Behind the opening the contract makes known what its tagged lines make known. -/
theorem goContract_told (hl : b.language = .go) :
    ∃ tail, goContract b = b.opening "" ++ tail ∧ Told .go tail := by
  have htable := hb.table
  have hsymbol := hb.symbol
  have himports := goKeyImports_told hl
  have hdeclared : ∀ d ∈ b.operations, (IsInline d.name ∧ IsInline d.doc) ∧
      Quiet Language.go.openings d.signature := by
    intro d hd
    obtain ⟨hsignature, hname, hdoc⟩ := hb.declared d hd
    have hhead := quiet_goHead hb (by decide : IsInline "ctx") d.op (by decide : IsInline "")
    rw [goHead_eq_signature, String.append_empty] at hhead
    rw [hsignature, signature, hl]
    exact ⟨⟨hname, hdoc⟩, hhead⟩
  refine ⟨_, rfl, ?_⟩
  simp +contextual (disch := first | assumption | (refine apart_ofList ?_; decide) | decide)
    [importBlock, toString, String.append_assoc, htable, hsymbol, himports, hdeclared]

private theorem goBody_told (op : Operation) : Told .go (goBody b op) := by
  have hname := isInline_of_isSolid hb.typeName
  have htable := hb.table
  have hkey := hb.keyType
  have hstatement : ∀ op, IsInline (statementName b.typeName op) := by
    intro op
    unfold statementName
    cases op <;> simp (disch := (refine apart_ofList ?_; decide)) [hname]
  have hpassed : ∀ f ∈ b.fields, Quiet Language.go.openings (f.bind ++ ",") :=
    fun f hf => hb.quiet_bind (by decide) hf (by decide)
  have hinserted := fun f hf => hpassed f (hb.inserted hf)
  have hupdated := fun f hf => hpassed f (hb.updated hf)
  unfold goBody
  cases op <;>
    simp +contextual (disch := first | assumption | (refine apart_ofList ?_; decide)) [goFailed,
      goEntry, Argument.text, toString, String.append_assoc, hname, htable, hkey, hstatement,
      hinserted, hupdated]

/-- Behind the opening the store makes known what its tagged lines make known. -/
theorem goStore_told (hl : b.language = .go) :
    ∃ tail, goStore b = b.opening "" ++ tail ∧ Told .go tail := by
  have hname := isInline_of_isSolid hb.typeName
  have hsymbol := hb.symbol
  have himports := goKeyImports_told hl
  have hstatements := hb.statements
  have hmethod : ∀ op, Told .go (goStoreMethod b op) := by
    intro op
    have hbody := goBody_told hb op
    have hhead := (quiet_goHead hb (by decide : IsInline "ctx") op (by decide : IsInline " \x7b")).1
    simp (disch := (refine apart_ofList ?_; decide)) [goStoreMethod, toString,
      String.append_assoc, hbody, hsymbol, hhead]
  refine ⟨_, rfl, ?_⟩
  simp (disch := first | (refine apart_ofList ?_; decide) | decide) [importBlock, goConstant,
    statementName, toString, String.append_assoc, hname, hsymbol, himports, hstatements, hmethod,
    Operation.all, List.intercalate]

/-- Behind the opening the mock makes known what its tagged lines make known. -/
theorem goMock_told (hl : b.language = .go) :
    ∃ tail, goMock b = b.opening "" ++ tail ∧ Told .go tail := by
  have hname := isInline_of_isSolid hb.typeName
  have hkey := hb.keyType
  have hkeyName := hb.keyName
  have hcolumn := hb.keyColumn
  have hsymbol := hb.symbol
  have himports := goKeyImports_told hl
  have hmethod : ∀ op, Told .go (goMockMethod b op) := by
    intro op
    have hhead := (quiet_goHead hb (by decide : IsInline "_") op (by decide : IsInline " \x7b")).1
    have hbody : Told .go (goMockBody b op) := by
      cases op <;>
        simp (disch := (refine apart_ofList ?_; decide)) [goMockBody, goReadLock, goWriteLock,
          toString, String.append_assoc, hname, hkeyName]
    simp (disch := (refine apart_ofList ?_; decide)) [goMockMethod, toString,
      String.append_assoc, hbody, hsymbol, hhead]
  refine ⟨_, rfl, ?_⟩
  simp (disch := first | (refine apart_ofList ?_; decide) | decide) [importBlock, toString,
    String.append_assoc, hname, hkey, hcolumn, hsymbol, himports, hmethod, Operation.all,
    List.intercalate]

end Told

end Blueprint

end AccessLayer
