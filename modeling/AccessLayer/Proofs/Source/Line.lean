import AccessLayer.Source.Line
import Mathlib.Data.List.Infix

namespace AccessLayer

/-- The second text stands somewhere in the first. -/
def Contains (text part : String) : Prop := ∃ before after, text = before ++ part ++ after

/-- What is part of a part is part of the whole. -/
theorem Contains.trans {text middle part : String} (h : Contains text middle)
    (h' : Contains middle part) : Contains text part := by
  obtain ⟨before, after, rfl⟩ := h
  obtain ⟨before', after', rfl⟩ := h'
  exact ⟨before ++ before', after' ++ after, by simp only [String.append_assoc]⟩

/-- The operation that is started, with its signature. -/
def Content.head? : Content → Option (Operation × String)
  | heads op _ signature _ => some (op, signature)
  | _ => none

namespace Line

variable (l : Language)

@[simp] theorem indent_nil : indent [] = [] := rfl

/-- Lines are indented one by one. -/
@[simp] theorem indent_cons (depth : Nat) (content : Content) (ls : List Line) :
    indent (⟨depth, content⟩ :: ls) = ⟨depth + 1, content⟩ :: indent ls := rfl

/-- Indented lines in a row. -/
@[simp] theorem indent_append (ls ls' : List Line) : indent (ls ++ ls') = indent ls ++ indent ls' :=
  List.map_append

/-- Lines that are made one by one are indented one by one. -/
@[simp] theorem indent_map {α : Type} (depth : Nat) (content : α → Content) (xs : List α) :
    indent (xs.map fun x => ⟨depth, content x⟩) = xs.map fun x => ⟨depth + 1, content x⟩ :=
  List.map_map

/-- A line that is indented is among the indented lines. -/
theorem mem_indent {d : Nat} {content : Content} {ls : List Line}
    (h : (⟨d, content⟩ : Line) ∈ ls) : (⟨d + 1, content⟩ : Line) ∈ indent ls :=
  List.mem_map_of_mem h

/-- Lines in a row are still in a row when all are indented. -/
theorem indent_within {part ls : List Line} (h : part <:+: ls) : indent part <:+: indent ls :=
  h.map _

/-- What stands in a block is among its lines, one step further in. -/
theorem within_block (top : Line) (ls : List Line) (foot : Line) :
    indent ls <:+: block top ls foot := ⟨[top], [foot], rfl⟩

/-- What stands in one of some groups of lines is among the lines. -/
theorem within_sections {groups : List (List Line)} {ls part : List Line} (i : Nat)
    (hgroup : groups[i]? = some ls) (h : part <:+: ls) : part <:+: sections groups :=
  h.trans (List.infix_of_mem_flatten (List.mem_of_getElem? hgroup))

/-- What is picked from the lines that have it. -/
def gather {α : Type} (pick : Content → Option α) (ls : List Line) : List α :=
  ls.filterMap fun line => pick line.content

section Gather

variable {α : Type} (pick : Content → Option α) (depth : Nat) (ls ls' : List Line)

@[simp] theorem gather_nil : gather pick [] = [] := rfl

@[simp] theorem gather_cons (content : Content) :
    gather pick (⟨depth, content⟩ :: ls) = (pick content).toList ++ gather pick ls := by
  rw [gather, List.filterMap_cons]
  cases pick content <;> rfl

@[simp] theorem gather_append : gather pick (ls ++ ls') = gather pick ls ++ gather pick ls' :=
  List.filterMap_append

@[simp] theorem gather_indent : gather pick (indent ls) = gather pick ls := List.filterMap_map

@[simp] theorem gather_flatMap {β : Type} (lines : β → List Line) (xs : List β) :
    gather pick (xs.flatMap lines) = xs.flatMap fun x => gather pick (lines x) := by
  induction xs with
  | nil => rfl
  | cons x xs ih => rw [List.flatMap_cons, gather_append, ih, List.flatMap_cons]

@[simp] theorem gather_sections (groups : List (List Line)) :
    gather pick (sections groups) = groups.flatMap (gather pick) := by
  rw [sections, ← List.flatMap_id, gather_flatMap]
  rfl

@[simp] theorem gather_block (top foot : Line) :
    gather pick (block top ls foot) = gather pick [top] ++ (gather pick ls ++ gather pick [foot]) := by
  rw [block, List.cons_append, ← List.singleton_append, gather_append, gather_append, gather_indent]

@[simp] theorem gather_onlyIf (condition : Bool) :
    gather pick (onlyIf condition ls) = if condition then gather pick ls else [] := by
  cases condition <;> rfl

@[simp] theorem gather_map {β : Type} (line : β → Line) (xs : List β) :
    gather pick (xs.map line) = xs.filterMap fun x => pick (line x).content :=
  List.filterMap_map

@[simp] theorem gather_braced (top : String) :
    gather pick (braced top ls) =
      (pick (.text (top ++ " \x7b"))).toList ++ (gather pick ls ++ (pick (.text "\x7d")).toList) := by
  simp [braced]

/-- What is gathered comes from a line. -/
theorem mem_gather {a : α} : a ∈ gather pick ls ↔ ∃ line ∈ ls, pick line.content = some a :=
  List.mem_filterMap

end Gather

section Heads

variable (depth : Nat) (op : Operation) (lead trail signature : String) (ls ls' : List Line)

@[simp] theorem heads_nil : heads [] = [] := rfl

@[simp] theorem heads_text (s : String) : heads (⟨depth, .text s⟩ :: ls) = heads ls := rfl

@[simp] theorem heads_imports (s : String) : heads (⟨depth, .imports s⟩ :: ls) = heads ls := rfl

@[simp] theorem heads_refers (kind : Kind) (symbol : Option (String × String)) :
    heads (⟨depth, .refers kind lead signature symbol trail⟩ :: ls) = heads ls := rfl

@[simp] theorem heads_declares (name : String) :
    heads (⟨depth, .declares lead name trail⟩ :: ls) = heads ls := rfl

@[simp] theorem heads_passes (a : Argument) :
    heads (⟨depth, .passes lead a trail⟩ :: ls) = heads ls := rfl

@[simp] theorem heads_heads :
    heads (⟨depth, .heads op lead signature trail⟩ :: ls) = (op, signature) :: heads ls := rfl

/-- Lines in a row start the operations that each of them starts. -/
@[simp] theorem heads_append : heads (ls ++ ls') = heads ls ++ heads ls' := List.filterMap_append

/-- How far in a line stands does not matter to what it starts. -/
@[simp] theorem heads_indent : heads (indent ls) = heads ls := List.filterMap_map

@[simp] theorem heads_sections (groups : List (List Line)) :
    heads (sections groups) = groups.flatMap heads := gather_sections Content.head? groups

@[simp] theorem heads_flatMap {α : Type} (lines : α → List Line) (xs : List α) :
    heads (xs.flatMap lines) = xs.flatMap fun x => heads (lines x) :=
  gather_flatMap Content.head? lines xs

@[simp] theorem heads_block (top foot : Line) :
    heads (block top ls foot) = heads [top] ++ (heads ls ++ heads [foot]) :=
  gather_block Content.head? ls top foot

@[simp] theorem heads_braced (top : String) : heads (braced top ls) = heads ls := by
  simp [braced]

@[simp] theorem heads_onlyIf (condition : Bool) :
    heads (onlyIf condition ls) = if condition then heads ls else [] := by
  cases condition <;> rfl

@[simp] theorem heads_map_text {α : Type} (s : α → String) (xs : List α) :
    heads (xs.map fun x => ⟨depth, .text (s x)⟩) = [] := by
  simp [heads]

@[simp] theorem heads_map_passes {α : Type} (a : α → Argument) (xs : List α) :
    heads (xs.map fun x => ⟨depth, .passes lead (a x) trail⟩) = [] := by
  simp [heads]

end Heads

section Arguments

variable (depth : Nat) (op : Operation) (lead trail signature : String) (ls ls' : List Line)

@[simp] theorem arguments_nil : arguments [] = [] := rfl

@[simp] theorem arguments_text (s : String) :
    arguments (⟨depth, .text s⟩ :: ls) = arguments ls := rfl

@[simp] theorem arguments_passes (a : Argument) :
    arguments (⟨depth, .passes lead a trail⟩ :: ls) = a :: arguments ls := rfl

@[simp] theorem arguments_heads :
    arguments (⟨depth, .heads op lead signature trail⟩ :: ls) = arguments ls := rfl

@[simp] theorem arguments_append : arguments (ls ++ ls') = arguments ls ++ arguments ls' :=
  List.filterMap_append

/-- How far in a line stands does not matter to what it passes. -/
@[simp] theorem arguments_indent : arguments (indent ls) = arguments ls := List.filterMap_map

@[simp] theorem arguments_map_passes {α : Type} (a : α → Argument) (xs : List α) :
    arguments (xs.map fun x => ⟨depth, .passes lead (a x) trail⟩) = xs.map a :=
  List.filterMap_map.trans (congrFun List.filterMap_eq_map xs)

end Arguments

/-- What is written below other lines starts on a line of its own. -/
def below (ls : List Line) : String := String.join (ls.map fun line => "\n" ++ written l line)

/-- A line below others, behind a line break. -/
theorem below_cons (line : Line) (ls : List Line) :
    below l (line :: ls) = "\n" ++ written l line ++ below l ls := by
  rw [below, List.map_cons, String.join_cons]
  rfl

/-- Lines below others are put below each other. -/
theorem below_append (ls ls' : List Line) : below l (ls ++ ls') = below l ls ++ below l ls' := by
  rw [below, List.map_append, String.join_append]
  rfl

/-- The first line has no line break before it. -/
theorem render_cons (line : Line) (ls : List Line) :
    render l (line :: ls) = written l line ++ below l ls := by
  induction ls generalizing line with
  | nil => simp [render, below]
  | cons next ls ih =>
    have hnext : "\n".intercalate (written l next :: ls.map (written l)) =
        written l next ++ below l ls := ih next
    rw [render, List.map_cons, List.map_cons, String.intercalate_cons_cons, hnext, below_cons]
    simp only [String.append_assoc]

/-- Lines are put below the text of others, if there are any. -/
theorem render_append {ls : List Line} (hne : ls ≠ []) (ls' : List Line) :
    render l (ls ++ ls') = render l ls ++ below l ls' := by
  obtain ⟨line, ls, rfl⟩ := List.exists_cons_of_ne_nil hne
  rw [List.cons_append, render_cons, render_cons, below_append, String.append_assoc]

private theorem read_append_below {α : Type} {read : List Char → List α}
    (hread : ∀ cs ds, read (cs ++ '\n' :: ds) = read cs ++ read ds) (s : String) (ls : List Line) :
    read (s ++ below l ls).toList =
      read s.toList ++ ls.flatMap fun line => read (written l line).toList := by
  induction ls generalizing s with
  | nil => simp [below]
  | cons line ls ih =>
    have hbelow : (s ++ below l (line :: ls)).toList =
        s.toList ++ '\n' :: (written l line ++ below l ls).toList := by
      rw [below_cons]
      simp
    rw [hbelow, hread, ih (written l line), List.flatMap_cons]

/-- What starts anew behind each line break reads the text of some lines line by line. -/
theorem read_render {α : Type} {read : List Char → List α}
    (hread : ∀ cs ds, read (cs ++ '\n' :: ds) = read cs ++ read ds) {ls : List Line}
    (hne : ls ≠ []) :
    read (render l ls).toList = ls.flatMap fun line => read (written l line).toList := by
  obtain ⟨line, ls, rfl⟩ := List.exists_cons_of_ne_nil hne
  rw [render_cons, read_append_below l hread, List.flatMap_cons]

/-- The text of some lines in a row is part of the text of all. -/
theorem contains_render {part ls : List Line} (h : part <:+: ls) (hne : part ≠ []) :
    Contains (render l ls) (render l part) := by
  obtain ⟨before, after, rfl⟩ := h
  obtain ⟨line, part, rfl⟩ := List.exists_cons_of_ne_nil hne
  cases before with
  | nil =>
    refine ⟨"", below l after, ?_⟩
    rw [List.nil_append, List.cons_append, render_cons, render_cons, below_append]
    simp only [String.empty_append, String.append_assoc]
  | cons first before =>
    refine ⟨written l first ++ below l before ++ "\n", below l after, ?_⟩
    simp only [List.cons_append, render_cons, below_append, below_cons, List.append_assoc,
      String.append_assoc]

/-- What stands before a line that is `depth` steps in. -/
def indentation (depth : Nat) : String := String.join (List.replicate depth (step l))

/-- A line that is not empty is written behind its indentation. -/
theorem written_of_ne_empty {depth : Nat} {content : Content} (h : content.written ≠ "") :
    written l ⟨depth, content⟩ = indentation l depth ++ content.written := by
  unfold written indentation
  rw [if_neg (by simpa using h)]

/-- A line ends with what stands on it. -/
theorem exists_written_eq (line : Line) :
    ∃ lead, written l line = lead ++ line.content.written := by
  by_cases h : line.content.written = ""
  · exact ⟨"", by simp [written, h]⟩
  · exact ⟨_, written_of_ne_empty l h⟩

/-- What stands on a line is part of the text. -/
theorem contains_render_of_mem {line : Line} {ls : List Line} (h : line ∈ ls) :
    Contains (render l ls) line.content.written := by
  have hline := contains_render l ((List.singleton_infix_iff line ls).mpr h) (List.cons_ne_nil _ _)
  obtain ⟨lead, hwritten⟩ := exists_written_eq l line
  have hrender : render l [line] = lead ++ line.content.written ++ "" := by
    rw [render_cons, hwritten, String.append_empty]
    exact String.append_empty
  exact hline.trans ⟨lead, "", hrender⟩

/-- The lines that pass arguments one below the other. -/
theorem below_arguments (depth : Nat) (lead : String) {trail : String} (htrail : trail ≠ "")
    (passed : List Argument) :
    below l (passed.map fun a => ⟨depth, .passes lead a trail⟩) =
      String.join (passed.map fun a => "\n" ++ indentation l depth ++ lead ++ a.text ++ trail) := by
  rw [below, List.map_map]
  congr 1
  refine List.map_congr_left fun a _ => ?_
  have hne : (Content.passes lead a trail).written ≠ "" := by
    simp [Content.written, htrail]
  rw [Function.comp_apply, written_of_ne_empty l hne]
  simp only [Content.written, String.append_assoc]

end Line

end AccessLayer
