import AccessLayer.Artifact
import AccessLayer.Proofs.Blueprint.Queries
import AccessLayer.Proofs.Source.Line

namespace AccessLayer

open Line

namespace Language

/-- The constant that holds the statement of an operation on entities of type `model`. -/
def constantName (l : Language) (model : String) (op : Operation) : String :=
  match l, op with
  | .go, op => Blueprint.statementName model op
  | _, .findById => "FIND_BY_ID"
  | _, .findAll => "FIND_ALL"
  | _, .create => "INSERT"
  | _, .update => "UPDATE"
  | _, .delete => "DELETE"

/-- The definition of the constant. -/
def constantText (l : Language) (model : String) (op : Operation) (s : Statement) : String :=
  let name := l.constantName model op
  match l, op with
  | .rust, _ => "const " ++ name ++ ": &str = \"" ++ s.text ++ "\";"
  | .cpp, _ => "static constexpr const char* " ++ name ++ " = \"" ++ s.text ++ "\";"
  | .python, _ => name ++ " = text(\"" ++ s.text ++ "\")"
  | .go, .findById => name ++ " = `" ++ s.text ++ "`"
  | .go, .findAll => name ++ "  = `" ++ s.text ++ "`"
  | .go, _ => name ++ "   = `" ++ s.text ++ "`"

end Language

namespace Blueprint

variable (b : Blueprint)

/-- The method of an operation as it stands in the store. -/
def storeMethod (op : Operation) : List Line :=
  match b.language with
  | .rust => indent (rustStoreMethod b op)
  | .cpp => indent (cppStoreMethod b op)
  | .python => indent (pythonStoreMethod b op)
  | .go => goStoreMethod b op

private theorem infix_intercalate {α : Type} {x sep : List α} {xs : List (List α)} (h : x ∈ xs) :
    x <:+: sep.intercalate xs := by
  induction xs with
  | nil => cases h
  | cons first rest ih =>
    cases rest with
    | nil =>
      rw [List.mem_singleton.mp h, List.intercalate_singleton]
    | cons next rest =>
      rw [List.intercalate_cons_cons]
      rcases List.mem_cons.mp h with rfl | hrest
      · rw [List.append_assoc]
        exact (List.prefix_append x _).isInfix
      · exact (ih hrest).trans (List.suffix_append _ _).isInfix

private theorem method_within (method : Operation → List Line) (op : Operation) :
    method op <:+: [("" : Line)].intercalate (Operation.all.map method) :=
  infix_intercalate (List.mem_map.mpr ⟨op, Operation.mem_all op, rfl⟩)

private theorem last_within {groups : List (List Line)} {ls : List Line}
    (h : groups.getLast? = some ls) : ls <:+: sections groups :=
  List.infix_of_mem_flatten (List.mem_of_getLast? h)

section Heads

variable (model key : String) (op : Operation)

/-- The heads of methods are spelled once more, and like the signatures that they implement. -/
theorem rustHead_eq_signature :
    rustHead model key op = Language.signature .rust model key op := by cases op <;> rfl

/-- The heads of methods are spelled like the signatures that they implement. -/
theorem cppHead_eq_signature :
    cppHead model key op = Language.signature .cpp model key op := by cases op <;> rfl

/-- The heads of methods are spelled like the signatures that they implement. -/
theorem pythonHead_eq_signature :
    pythonHead model key op = Language.signature .python model key op := by cases op <;> rfl

/-- The heads of methods with a named context are spelled like the signatures that they
    implement. -/
theorem goHead_eq_signature :
    goHead "ctx" model key op = Language.signature .go model key op := by cases op <;> rfl

end Heads

/-- Every method stands in its store, among the others. -/
theorem storeMethod_within (op : Operation) : b.storeMethod op <:+: b.storeLines := by
  unfold storeMethod storeLines
  cases b.language with
  | rust =>
    have hbody := indent_within (method_within (rustStoreMethod b) op)
    exact (hbody.trans (within_block _ _ _)).trans (last_within rfl)
  | cpp =>
    refine within_sections 6 rfl (indent_within ?_)
    exact (method_within (cppStoreMethod b) op).trans (last_within rfl)
  | python =>
    refine (indent_within ?_).trans (last_within rfl)
    exact (method_within (pythonStoreMethod b) op).trans (last_within rfl)
  | go => exact (method_within (goStoreMethod b) op).trans (last_within rfl)

private theorem heads_cppCall (opening : String) (values : List String) :
    heads (cppCall opening values) = [] := by
  rcases List.eq_nil_or_concat values with rfl | ⟨before, last, rfl⟩
  · rfl
  · simp [cppCall, sections]

/-- The method of an operation starts that operation, with the declared signature, and no other. -/
theorem heads_storeMethod (op : Operation) :
    heads (b.storeMethod op) = [(op, b.signature op)] := by
  unfold storeMethod signature
  cases b.language with
  | rust =>
    rw [← rustHead_eq_signature]
    cases op <;>
      simp [rustStoreMethod, rustBody, block, sections, rustBound, rustAwaited, rustChecked]
  | cpp =>
    rw [← cppHead_eq_signature]
    cases op <;>
      simp [cppStoreMethod, cppTask, block, braced, sections, cppLockAndBegin, cppCommit,
        heads_cppCall]
  | python =>
    rw [← pythonHead_eq_signature]
    cases op <;>
      simp [pythonStoreMethod, pythonBody, pythonCall, pythonEntry, pythonCommit, block, sections,
        Function.comp_def]
  | go =>
    rw [← goHead_eq_signature]
    cases op <;>
      simp [goStoreMethod, goBody, block, braced, sections, goEntry, goFailed]

/-- The line on which the statement of an operation is given its name. -/
def constantLine (op : Operation) : Line :=
  let name := b.language.constantName b.typeName op
  let statement := b.queries.statement op
  match b.language, op with
  | .rust, _ => rustConstant name statement
  | .cpp, _ => ⟨1, (cppConstant name statement).content⟩
  | .python, _ => pythonConstant name statement
  | .go, .findById => ⟨1, (goConstant b op " " statement).content⟩
  | .go, .findAll => ⟨1, (goConstant b op "  " statement).content⟩
  | .go, _ => ⟨1, (goConstant b op "   " statement).content⟩

/-- The statement of each operation has a constant in the store. -/
theorem constantLine_mem (op : Operation) : b.constantLine op ∈ b.storeLines := by
  unfold constantLine storeLines
  cases b.language with
  | rust =>
    refine List.mem_flatten_of_mem (List.mem_of_getElem? (i := 3) rfl) ?_
    cases op <;> simp [Language.constantName, Queries.statement]
  | cpp =>
    refine List.mem_flatten_of_mem (List.mem_of_getElem? (i := 8) rfl) (mem_indent (d := 0) ?_)
    cases op <;> simp [Language.constantName, Queries.statement, sections, cppConstant]
  | python =>
    refine List.mem_flatten_of_mem (List.mem_of_getElem? (i := 3) rfl) ?_
    cases op <;> simp [Language.constantName, Queries.statement]
  | go =>
    refine List.mem_flatten_of_mem (List.mem_of_getElem? (i := 2) rfl) ?_
    cases op <;> simp [Queries.statement, block, goConstant]

/-- The constant of an operation holds the text of its statement. -/
theorem constantLine_written (op : Operation) : (b.constantLine op).content.written =
    b.language.constantText b.typeName op (b.queries.statement op) := by
  unfold constantLine Language.constantText
  cases b.language with
  | rust => simp [rustConstant, Content.written, String.append_assoc, toString]
  | cpp => simp [cppConstant, Content.written, String.append_assoc, toString]
  | python => simp [pythonConstant, Content.written, String.append_assoc, toString]
  | go =>
    cases op <;>
      simp [goConstant, Content.written, String.append_assoc, Language.constantName, toString]

end Blueprint

end AccessLayer
