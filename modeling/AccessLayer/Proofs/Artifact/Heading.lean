import AccessLayer.Proofs.Artifact.Store
import AccessLayer.Proofs.Blueprint.Inline
import AccessLayer.Proofs.Source.Heading

namespace AccessLayer

namespace Blueprint

variable (b : Blueprint)

/-- A contract declares the operations and leaves them open. -/
def contractHeading : Heading :=
  match b.language with
  | .rust => ⟨"", ";", b.signature⟩
  | .cpp => ⟨"virtual ", " = 0;", b.signature⟩
  | .python => ⟨"", ":", b.signature⟩
  | .go => ⟨"", "", b.signature⟩

/-- Methods of one language name their receiver. -/
def storeHeading : Heading :=
  match b.language with
  | .rust => ⟨"", " \x7b", b.signature⟩
  | .cpp => ⟨"", " override \x7b", b.signature⟩
  | .python => ⟨"", ":", b.signature⟩
  | .go => ⟨"func (d *" ++ b.symbol .store ++ ") ", " \x7b", b.signature⟩

/-- Where a request comes with a context, a mock does not name it. -/
def mockHeading : Heading :=
  match b.language with
  | .rust => ⟨"", " \x7b", b.signature⟩
  | .cpp => ⟨"", " override \x7b", b.signature⟩
  | .python => ⟨"", ":", b.signature⟩
  | .go => ⟨"func (m *" ++ b.symbol .mock ++ ") ", " \x7b", goHead "_" b.typeName b.key.type⟩

/-- What artifacts have in common starts no operation. -/
@[simp] theorem heads_opening (purpose : String) : Line.heads (b.opening purpose) = [] := by
  unfold opening
  cases b.language <;> rfl

@[simp] theorem heads_keyImports : Line.heads b.keyImports = [] := by
  unfold keyImports
  cases b.language <;> simp

@[simp] theorem heads_useSibling (kind : Kind) (ls : List Line) :
    Line.heads (⟨0, b.useSibling kind⟩ :: ls) = Line.heads ls := by
  unfold useSibling
  cases b.language <;> rfl

@[simp] theorem heads_includeSibling (kind : Kind) (ls : List Line) :
    Line.heads (⟨0, b.includeSibling kind⟩ :: ls) = Line.heads ls := rfl

variable {b}

/-- The main declarations have names without line breaks. -/
theorem Unbroken.symbol (hb : b.Unbroken) (kind : Kind) : IsInline (b.symbol kind) := by
  have hname := isInline_of_isSolid hb.typeName
  unfold Blueprint.symbol Language.symbol
  cases kind <;> cases b.language <;>
    simp (disch := (refine notMem_ofList ?_; decide)) [isInline_of_notMem, hname]

/-- A value of the entity that is passed on a line of its own starts no operation. -/
theorem Unbroken.quiet_bind (hb : b.Unbroken) {marks : List (List Char)}
    (hmarks : ∀ lead ∈ [['e'], ['&'], ['d']], Apart marks lead) {f : Field} (hf : f ∈ b.fields)
    {trail : String} (htrail : IsInline trail) : Quiet marks (f.bind ++ trail) := by
  obtain ⟨lead, hlead, hstart⟩ := hb.bindStart f hf
  have hline : lead <+: (f.bind ++ trail).toList := by
    rw [String.toList_append]
    exact hstart.trans (List.prefix_append _ _)
  have hinline : IsInline (f.bind ++ trail) :=
    (isInline_append _ _).mpr ⟨hb.fieldBind f hf, htrail⟩
  exact quiet_of_start hline (hmarks lead hlead) hinline

end Blueprint

/-- Texts that begin apart do not start with each other. -/
theorem not_starts_ofList {cs ds : List Char} (h : Diverge cs ds) (s t : String) :
    ¬ (String.ofList cs ++ s).toList <+: (String.ofList ds ++ t).toList := by
  rw [String.toList_append, String.toList_append, String.toList_ofList, String.toList_ofList]
  exact h.not_starts _ _

/-- A text begins with a mark where its literal beginning does, whatever comes after. -/
theorem exists_starts_ofList {marks : List (List Char)} {cs : List Char}
    (h : ∃ m ∈ marks, m <+: cs) (s : String) :
    ∃ m ∈ marks, m <+: (String.ofList cs ++ s).toList := by
  obtain ⟨m, hm, hstarts⟩ := h
  rw [String.toList_append, String.toList_ofList]
  exact ⟨m, hm, hstarts.trans (List.prefix_append _ _)⟩

end AccessLayer
