import AccessLayer.Proofs.Artifact.Heading
import AccessLayer.Proofs.Text.Case

namespace AccessLayer

namespace Blueprint

open Line Heading Text

/-- With one of these the heads start, and no other line does that holds no name of a service. -/
def goMarks : List (List Char) :=
  [['F'], ['C'], ['U'], ['D'], ['f', 'u', 'n', 'c', ' ', '(', 'd', ' ', '*'],
   ['f', 'u', 'n', 'c', ' ', '(', 'm', ' ', '*']]

/-- The heading of an interface, whose operations have no receiver. -/
@[simps]
def goContractHeading (b : Blueprint) : Heading := ⟨"", "", goHead "ctx" b.typeName b.key.type⟩

/-- The heading of methods whose receiver is the store. -/
@[simps]
def goStoreHeading (b : Blueprint) : Heading :=
  ⟨"func (d *" ++ b.symbol .store ++ ") ", " \x7b", goHead "ctx" b.typeName b.key.type⟩

/-- The heading of methods whose receiver is the mock. The request context has no name there. -/
@[simps]
def goMockHeading (b : Blueprint) : Heading :=
  ⟨"func (m *" ++ b.symbol .mock ++ ") ", " \x7b", goHead "_" b.typeName b.key.type⟩

variable {b : Blueprint}

private theorem goHead_apart (ctx model key trail : String) {op op' : Operation} (hop : op ≠ op') :
    ¬ (goHead ctx model key op).toList <+: (goHead ctx model key op' ++ trail).toList := by
  unfold goHead
  cases op <;> cases op' <;> try exact absurd rfl hop
  all_goals
    simp only [toString, String.append_assoc]
    exact not_starts_ofList (by decide) _ _

private theorem goHead_starts (ctx model key : String) (op : Operation) :
    ∃ m ∈ [['F'], ['C'], ['U'], ['D']], m <+: (goHead ctx model key op).toList := by
  unfold goHead
  cases op <;>
    · simp only [toString, String.append_assoc]
      exact exists_starts_ofList (by decide) _

private theorem exists_capital_goHead (ctx model key : String) (op : Operation) :
    ∃ c ∈ (goHead ctx model key op).toList, inSpans capitalSpans c = true := by
  have hcapital : ∀ m ∈ [['F'], ['C'], ['U'], ['D']], m.any (inSpans capitalSpans) = true := by
    decide
  obtain ⟨m, hm, hstarts⟩ := goHead_starts ctx model key op
  obtain ⟨c, hc, hc'⟩ := List.any_eq_true.mp (hcapital m hm)
  exact ⟨c, hstarts.subset hc, hc'⟩

private theorem isInline_goHead {ctx model key : String} (hctx : IsInline ctx)
    (hmodel : IsInline model) (hkey : IsInline key) (op : Operation) :
    IsInline (goHead ctx model key op) := by
  unfold goHead
  cases op <;>
    simp (disch := (refine notMem_ofList ?_; decide)) [toString, isInline_of_notMem, hctx, hmodel,
      hkey]

section Distinct

variable (hb : b.Unbroken)

include hb

private theorem distinct_goContractHeading : (goContractHeading b).Distinct goMarks where
  inline op := by
    have hhead := isInline_goHead (by decide : IsInline "ctx") (isInline_of_isSolid hb.typeName)
      hb.keyType op
    simpa [head] using hhead
  solid := by decide
  marked op := by
    obtain ⟨m, hm, hstarts⟩ := goHead_starts "ctx" b.typeName b.key.type op
    exact ⟨m, List.mem_append_left _ hm, by simpa [head] using hstarts⟩
  apart _ _ hop := goHead_apart _ _ _ _ hop

private theorem distinct_goReceiver (kind : Kind) {receiver ctx : String} (hctx : IsInline ctx)
    (hinline : IsInline receiver) (hmarked : ∃ m ∈ goMarks, m <+: receiver.toList) :
    (⟨receiver ++ b.symbol kind ++ ") ", " \x7b", goHead ctx b.typeName b.key.type⟩ :
      Heading).Distinct goMarks where
  inline op := by
    have hhead := isInline_goHead hctx (isInline_of_isSolid hb.typeName) hb.keyType op
    have hsymbol := hb.symbol
    simp (disch := (refine apart_ofList ?_; decide)) [head, hinline, hhead, hsymbol]
  solid := by decide
  marked op := by
    obtain ⟨m, hm, hstarts⟩ := hmarked
    refine ⟨m, hm, hstarts.trans ?_⟩
    simp only [head, String.append_assoc, String.toList_append]
    exact List.prefix_append _ _
  apart _ _ hop := goHead_apart _ _ _ _ hop

private theorem distinct_goStoreHeading : (goStoreHeading b).Distinct goMarks :=
  distinct_goReceiver hb .store (by decide) (by decide) (by decide)

private theorem distinct_goMockHeading : (goMockHeading b).Distinct goMarks :=
  distinct_goReceiver hb .mock (by decide) (by decide) (by decide)

end Distinct

section Fits

variable (h : Heading) (hb : b.Unbroken) (hl : b.language = .go)

include hl

private theorem goKeyImports_fits : h.FitsAll goMarks b.keyImports := by
  simp (disch := first | (refine apart_ofList ?_; decide) | decide) [keyImports, hl]

include hb

/-- The lines behind the opening fit; the opening holds the name of the service, which is arbitrary
    text in lower case. -/
theorem goContract_fits : ∃ tail, goContract b = b.opening "" ++ tail ∧
    (goContractHeading b).FitsAll goMarks tail := by
  have htable := hb.table
  have hsymbol := hb.symbol
  have himports := goKeyImports_fits (goContractHeading b) hl
  have hdeclared : ∀ d ∈ b.operations, (IsInline d.name ∧ IsInline d.doc) ∧
      d.signature = goHead "ctx" b.typeName b.key.type d.op := by
    intro d hd
    obtain ⟨hsignature, hname, hdoc⟩ := hb.declared d hd
    rw [hsignature, signature, hl]
    exact ⟨⟨hname, hdoc⟩, (goHead_eq_signature ..).symm⟩
  refine ⟨_, rfl, ?_⟩
  simpa (disch := first | (refine apart_ofList ?_; decide) | decide) [importBlock, toString,
    String.append_assoc, htable, hsymbol, himports] using hdeclared

omit hl

private theorem goStatementName_inline (op : Operation) :
    IsInline (statementName b.typeName op) := by
  have hname := isInline_of_isSolid hb.typeName
  unfold statementName
  cases op <;> simp (disch := (refine apart_ofList ?_; decide)) [hname]

private theorem goConstant_fits (op : Operation) (gap : String) (s : Statement) :
    h.Fits goMarks (goConstant b op gap s).content ↔ IsInline gap ∧ IsInline s.text := by
  have hname := isInline_of_isSolid hb.typeName
  unfold goConstant statementName
  cases op <;>
    simp (disch := (refine apart_ofList ?_; decide)) [toString, String.append_assoc, hname]

omit hb in
private theorem goEntry_fits (value : String) :
    h.Fits goMarks (goEntry value).content ↔ Quiet goMarks (value ++ ",") := by
  simp [goEntry, Argument.text]

private theorem goBody_fits (op : Operation) : h.FitsAll goMarks (goBody b op) := by
  have hname := isInline_of_isSolid hb.typeName
  have htable := hb.table
  have hkey := hb.keyType
  have hstatement := goStatementName_inline hb
  have hpassed : ∀ f ∈ b.fields, Quiet goMarks (f.bind ++ ",") :=
    fun f hf => hb.quiet_bind (by decide) hf (by decide)
  have hinserted := fun f hf => hpassed f (hb.inserted hf)
  have hupdated := fun f hf => hpassed f (hb.updated hf)
  unfold goBody
  cases op <;>
    simp +contextual (disch := first | assumption | (refine apart_ofList ?_; decide)) [goFailed,
      goEntry_fits, Argument.text, toString, String.append_assoc, hname, htable, hkey, hstatement,
      hinserted, hupdated]

private theorem goStoreMethod_fits (op : Operation) :
    (goStoreHeading b).FitsAll goMarks (goStoreMethod b op) := by
  have hbody := goBody_fits (goStoreHeading b) hb op
  simp (disch := (refine apart_ofList ?_; decide)) [goStoreMethod, toString, hbody]

include hl

private theorem goStore_fits : ∃ tail, goStore b = b.opening "" ++ tail ∧
    (goStoreHeading b).FitsAll goMarks tail := by
  have hsymbol := hb.symbol
  have himports := goKeyImports_fits (goStoreHeading b) hl
  have hconstant := goConstant_fits (goStoreHeading b) hb
  have hstatements := hb.statements
  have hmethod := goStoreMethod_fits hb
  have hconstructor : Quiet goMarks ("func " ++ ("NewPg" ++ (b.symbol .contract ++
      ("(db *sqlx.DB) " ++ (b.symbol .contract ++ " \x7b"))))) := by
    rw [quiet_ofList_append (by decide)]
    simp (disch := (refine apart_ofList ?_; decide)) [hsymbol]
  refine ⟨_, rfl, ?_⟩
  simp (disch := first | (refine apart_ofList ?_; decide) | decide) [importBlock, toString,
    String.append_assoc, hsymbol, himports, hconstant, hstatements, hmethod, hconstructor,
    Operation.all, List.intercalate]

omit hl

private theorem goMockMethod_fits (op : Operation) :
    (goMockHeading b).FitsAll goMarks (goMockMethod b op) := by
  have hname := isInline_of_isSolid hb.typeName
  have hkeyName := hb.keyName
  cases op <;>
    simp (disch := (refine apart_ofList ?_; decide)) [goMockMethod, goMockBody, goReadLock,
      goWriteLock, toString, String.append_assoc, hname, hkeyName]

include hl

private theorem goMock_fits : ∃ tail, goMock b = b.opening "" ++ tail ∧
    (goMockHeading b).FitsAll goMarks tail := by
  have hname := isInline_of_isSolid hb.typeName
  have hkey := hb.keyType
  have hcolumn := hb.keyColumn
  have hsymbol := hb.symbol
  have himports := goKeyImports_fits (goMockHeading b) hl
  have hmethod := goMockMethod_fits hb
  have hconstructor : Quiet goMarks ("func " ++ ("New" ++ (b.symbol .mock ++
      ("() *" ++ (b.symbol .mock ++ " \x7b"))))) := by
    rw [quiet_ofList_append (by decide)]
    simp (disch := (refine apart_ofList ?_; decide)) [hsymbol]
  refine ⟨_, rfl, ?_⟩
  simp (disch := first | (refine apart_ofList ?_; decide) | decide) [importBlock, toString,
    String.append_assoc, hname, hkey, hcolumn, hsymbol, himports, hmethod, hconstructor,
    Operation.all, List.intercalate]

end Fits

section Heads

private theorem heads_goContract :
    (heads (goContract b)).map Prod.fst = b.operations.map (·.op) := by
  simpa [goContract, importBlock, List.map_flatMap] using List.map_eq_flatMap.symm

private theorem heads_goStore (hl : b.language = .go) :
    (heads (goStore b)).map Prod.fst = Operation.all := by
  have hmethod : ∀ op, heads (goStoreMethod b op) = [(op, b.signature op)] := by
    intro op
    simpa only [storeMethod, hl] using heads_storeMethod b op
  simp [goStore, importBlock, goConstant, hmethod, Operation.all, List.intercalate]

private theorem heads_goMock : (heads (goMock b)).map Prod.fst = Operation.all := by
  simp [goMock, importBlock, goMockMethod, goMockBody, goReadLock, goWriteLock, Operation.all,
    List.intercalate]

end Heads

section Once

variable (hb : b.Unbroken) (hl : b.language = .go)
  (hpackage : ∀ c ∈ b.package.toList, inSpans capitalSpans c = false)

include hl

/-- Signatures are the heads of methods with a request context called `ctx`. -/
theorem goSignature_eq : b.signature = goHead "ctx" b.typeName b.key.type := by
  funext op
  rw [signature, hl, goHead_eq_signature]

include hpackage

/-- Where the name of the service stands no operation starts: heads have capitals. -/
theorem goOpening_silent {h : Heading} (hdistinct : h.Distinct goMarks)
    (hsignature : ∃ ctx, h.signature = goHead ctx b.typeName b.key.type) :
    ∀ row ∈ rowsOf (b.opening ""), ∀ op, ¬ (h.head op).toList <+: row := by
  have hquiet : Quiet goMarks "// Code generated by daogen. DO NOT EDIT." ∧ Quiet goMarks "" := by
    simp (disch := first | (refine apart_ofList ?_; decide) | decide) only [quiet_of_apart,
      quiet_empty, and_self]
  obtain ⟨ctx, hsignature⟩ := hsignature
  have hservice : ∀ row ∈ rows (s!"package {b.package}").toList, ∀ op,
      ¬ (h.head op).toList <+: row := by
    intro row hrow op hstarts
    obtain ⟨c, hc, hcapital⟩ := exists_capital_goHead ctx b.typeName b.key.type op
    have hmem : c ∈ (h.head op).toList := by
      rw [head, hsignature, String.toList_append]
      exact List.mem_append_right _ hc
    have hline := mem_of_mem_rows hrow c (hstarts.subset hmem)
    have hword : "package ".toList.all (!inSpans capitalSpans ·) = true := by decide
    have hsmall : inSpans capitalSpans c = false := by
      simp only [toString, String.toList_append, List.mem_append] at hline
      rcases hline with hmem | hmem
      · simpa using List.all_eq_true.mp hword c hmem
      · exact hpackage c hmem
    rw [hcapital] at hsmall
    cases hsmall
  unfold opening
  rw [hl]
  simp only [rowsOf, List.flatMap_cons, List.flatMap_nil, List.append_nil, List.mem_append]
  rintro row (hrow | hrow | hrow | hrow)
  · exact hdistinct.not_starts_row hquiet.1 row hrow
  · exact hdistinct.not_starts_row hquiet.2 row hrow
  · exact hservice row hrow
  · exact hdistinct.not_starts_row hquiet.2 row hrow

/-- What is common to the three artifacts: headings that are told apart, an opening in which no
    operation starts, and lines behind it that fit. -/
theorem go_once {h : Heading} (hdistinct : h.Distinct goMarks)
    (hsignature : ∃ ctx, h.signature = goHead ctx b.typeName b.key.type) {ls : List Line}
    (hfits : ∃ tail, ls = b.opening "" ++ tail ∧ h.FitsAll goMarks tail)
    (hops : (heads ls).map Prod.fst = Operation.all) (op : Operation) :
    HeadsOnce (render .go ls) (h.head op) h.trail := by
  obtain ⟨tail, rfl, htail⟩ := hfits
  rw [heads_append, heads_opening, List.nil_append] at hops
  exact headsOnce_render .go hdistinct (goOpening_silent hl hpackage hdistinct hsignature) htail
    hops op

include hb

/-- Every operation is declared on one line of the contract. -/
theorem goContract_once (hops : b.operations.map (·.op) = Operation.all) (op : Operation) :
    HeadsOnce (render .go (goContract b)) (b.contractHeading.head op)
      b.contractHeading.trail := by
  have hheading : b.contractHeading = goContractHeading b := by
    rw [contractHeading, hl, goSignature_eq hl, goContractHeading]
  rw [hheading]
  exact go_once hl hpackage (distinct_goContractHeading hb) ⟨"ctx", rfl⟩ (goContract_fits hb hl)
    (heads_goContract.trans hops) op

/-- Every operation is implemented behind one line of the store. Its constructor is a function
    without a receiver. -/
theorem goStore_once (op : Operation) :
    HeadsOnce (render .go (goStore b)) (b.storeHeading.head op) b.storeHeading.trail := by
  have hheading : b.storeHeading = goStoreHeading b := by
    rw [storeHeading, hl, goSignature_eq hl, goStoreHeading]
  rw [hheading]
  exact go_once hl hpackage (distinct_goStoreHeading hb) ⟨"ctx", rfl⟩ (goStore_fits hb hl)
    (heads_goStore hl) op

/-- Every operation is implemented behind one line of the mock. -/
theorem goMock_once (op : Operation) :
    HeadsOnce (render .go (goMock b)) (b.mockHeading.head op) b.mockHeading.trail := by
  have hheading : b.mockHeading = goMockHeading b := by
    rw [mockHeading, hl, goMockHeading]
  rw [hheading]
  exact go_once hl hpackage (distinct_goMockHeading hb) ⟨"_", rfl⟩ (goMock_fits hb hl)
    heads_goMock op

end Once

end Blueprint

end AccessLayer
