import AccessLayer.Proofs.Inspect.Document
import AccessLayer.Proofs.Inspect.Quotes

namespace AccessLayer

namespace Json

variable {α β : Type} {p : α → Prop} {q : β → Prop}

/-- A text for each of what satisfies `p`, which shows by itself where it ends. -/
def SelfEnding (p : α → Prop) (text : α → String) : Prop :=
  ReadsBack p (fun _ => True) fun a => (text a).toList

private theorem SelfEnding.prepend {text : α → String} (h : SelfEnding p text) (before : String) :
    SelfEnding p fun a => before ++ text a := by
  have hframed : ReadsBack p (fun _ => True) fun a => before.toList ++ ((text a).toList ++ []) :=
    ReadsBack.framed _ _ h fun _ _ => trivial
  simpa [SelfEnding] using hframed

/-- Two texts that show where they end, one behind the other. -/
theorem SelfEnding.pair {text : α → String} {text' : β → String} (h : SelfEnding p text)
    (h' : SelfEnding q text') :
    SelfEnding (fun e : α × β => p e.1 ∧ q e.2) fun e => text e.1 ++ text' e.2 := by
  simpa [SelfEnding] using ReadsBack.prod h h' fun _ _ _ _ => trivial

private theorem selfEnding_quoted : SelfEnding (fun _ => True) quoted := by
  have hread := (readsBack_quoted readEscaped_escaped head_escaped).comp
    (q := fun _ : String => True) (fun _ _ _ _ h => String.toList_inj.mp h) fun _ _ => trivial
  simpa [SelfEnding, quoted] using hread

private theorem selfEnding_scalar : SelfEnding (fun _ => True) scalar := by
  intro a b x y _ _ _ _ h
  rcases a with _ | (_ | _) | s <;> rcases b with _ | (_ | _) | t
  case text.text =>
    obtain ⟨rfl, hrest⟩ := selfEnding_quoted trivial trivial trivial trivial h
    exact ⟨rfl, hrest⟩
  all_goals simp_all [scalar, quoted]

private theorem selfEnding_entry (depth : Nat) : SelfEnding (fun _ => True) (entry depth) := by
  have hpair := selfEnding_quoted.pair (selfEnding_scalar.prepend ": ")
  have hentry : entry depth = fun e => line depth "" ++ (quoted e.1 ++ (": " ++ scalar e.2)) := by
    funext e
    simp [entry, line, String.append_assoc]
  rw [hentry]
  simpa only [and_self] using hpair.prepend (line depth "")

/-- Texts with commas between them, on lines of their own between two others. -/
theorem SelfEnding.enclosed {text : α → String} (h : SelfEnding p text)
    (opening closing : String) :
    SelfEnding (fun as : List α => as ≠ [] ∧ ∀ a ∈ as, p a) fun as =>
      opening ++ ",\n".intercalate (as.map text) ++ "\n" ++ closing := by
  have hlist : ReadsBack (fun as : List α => as ≠ [] ∧ ∀ a ∈ as, p a)
      (fun rest => rest.head? = some '\n')
      fun as => ",\n".toList.intercalate (as.map fun a => (text a).toList) :=
    ReadsBack.intercalate h (fun _ _ => trivial) (fun _ => trivial) (by simp)
  have hframed : ReadsBack _ (fun _ => True) _ :=
    hlist.framed opening.toList ("\n" ++ closing).toList (by simp)
  have htext (as : List α) :
      (opening ++ ",\n".intercalate (as.map text) ++ "\n" ++ closing).toList =
        opening.toList ++ (",\n".toList.intercalate (as.map fun a => (text a).toList) ++
          ("\n" ++ closing).toList) := by
    simp only [String.toList_append, String.toList_intercalate, List.map_map, List.append_assoc]
    rfl
  simpa only [SelfEnding, htext] using hframed

/-- An object shows where it ends if each of its parts does and it has a part. -/
theorem SelfEnding.objectText {text : α → String} (h : SelfEnding p text) (depth : Nat) :
    SelfEnding (fun as : List α => as ≠ [] ∧ ∀ a ∈ as, p a) fun as =>
      objectText depth (as.map text) :=
  h.enclosed _ _

private theorem selfEnding_columnsText :
    SelfEnding (fun columns : List Record => ∀ c ∈ columns, c ≠ []) columnsText := by
  have hrecord := (selfEnding_entry 4).objectText 3
  have hsome := hrecord.enclosed (line 2 "\"columns\": [" ++ "\n") (line 2 "]")
  intro a b x y ha hb hx hy h
  have hall {cs : List Record} (hcs : ∀ c ∈ cs, c ≠ []) :
      ∀ c ∈ cs, c ≠ [] ∧ ∀ e ∈ c, True := fun c hc => ⟨hcs c hc, fun _ _ => trivial⟩
  cases a with
  | nil =>
    cases b with
    | nil => exact ⟨rfl, List.append_cancel_left h⟩
    | cons d b => simp [columnsText, line] at h
  | cons c a =>
    cases b with
    | nil => simp [columnsText, line] at h
    | cons d b =>
      exact hsome ⟨List.cons_ne_nil _ _, hall ha⟩ ⟨List.cons_ne_nil _ _, hall hb⟩ hx hy h

/-- A member of what is shown of a table: a fact, or the columns. -/
def member : (String × Scalar) ⊕ List Record → String := Sum.elim (entry 2) columnsText

private theorem entry_ne_columnsText (e : String × Scalar) (columns : List Record)
    (x y : List Char) : (entry 2 e).toList ++ x ≠ (columnsText columns).toList ++ y := by
  intro h
  obtain ⟨rest, hcolumns⟩ : ∃ rest, (columnsText columns).toList ++ y =
      (line 2 "").toList ++ ((quoted "columns").toList ++ (": ".toList ++ '[' :: rest)) := by
    have hopening : (line 2 "\"columns\": [").toList =
        (line 2 "").toList ++ ((quoted "columns").toList ++ (": ".toList ++ ['['])) := by decide
    unfold columnsText
    split
    · exact ⟨_, rfl⟩
    · simp only [String.toList_append, hopening, List.append_assoc]
      exact ⟨_, rfl⟩
  have hentry : (entry 2 e).toList ++ x =
      (line 2 "").toList ++ ((quoted e.1).toList ++ (": ".toList ++ ((scalar e.2).toList ++ x))) := by
    simp [entry, line]
  rw [hentry, hcolumns] at h
  obtain ⟨-, hvalue⟩ := selfEnding_quoted trivial trivial trivial trivial (List.append_cancel_left h)
  have hbracket := List.append_cancel_left hvalue
  cases hvalue' : e.2 with
  | null => simp [hvalue', scalar] at hbracket
  | bool b => cases b <;> simp [hvalue', scalar] at hbracket
  | text s => simp [hvalue', scalar, quoted] at hbracket

private theorem selfEnding_member :
    SelfEnding (fun m => ∀ columns, m = .inr columns → ∀ c ∈ columns, c ≠ []) member := by
  intro m n x y hm hn hx hy h
  cases m with
  | inl e =>
    cases n with
    | inl f =>
      obtain ⟨rfl, hrest⟩ := selfEnding_entry 2 trivial trivial hx hy h
      exact ⟨rfl, hrest⟩
    | inr columns => exact absurd h (entry_ne_columnsText e columns x y)
  | inr columns =>
    cases n with
    | inl f => exact absurd h.symm (entry_ne_columnsText f columns y x)
    | inr columns' =>
      obtain ⟨rfl, hrest⟩ := selfEnding_columnsText (hm _ rfl) (hn _ rfl) hx hy h
      exact ⟨rfl, hrest⟩

/-- What is shown of a table shows by itself where it ends, so a list of tables can be read back one
    by one. -/
theorem selfEnding_shown :
    SelfEnding (fun v : TableView => ∀ c ∈ v.columns, c ≠ []) shown := by
  have hobject := selfEnding_member.objectText 1
  have hmembers : Function.Injective fun v : TableView =>
      v.facts.map Sum.inl ++ [Sum.inr v.columns] := by
    intro v w h
    obtain ⟨hfacts, hcolumns⟩ := List.append_inj' h rfl
    have hfacts' := (List.map_inj_right fun _ _ => Sum.inl.inj).mp hfacts
    cases v
    cases w
    simp_all
  have hview := ReadsBack.comp (q := fun v : TableView => ∀ c ∈ v.columns, c ≠ []) hobject
    hmembers.injOn (by
      intro v hv
      refine ⟨by simp, fun m hm columns hcolumns => ?_⟩
      subst hcolumns
      obtain rfl : columns = v.columns := by simpa using hm
      exact hv)
  have hshown (v : TableView) : shown v =
      objectText 1 ((v.facts.map Sum.inl ++ [Sum.inr v.columns]).map member) := by
    rw [shown, List.map_append, List.map_map]
    rfl
  simpa only [SelfEnding, hshown] using hview

/-- No two lists of views are written alike, as long as every column shows something. -/
theorem render_injOn :
    Set.InjOn render {views | ∀ v ∈ views, ∀ c ∈ v.columns, c ≠ []} := by
  intro views hviews views' hviews' h
  have hlist := selfEnding_shown.enclosed "[\n" "]\n"
  have hclosing : "\n]\n" = "\n" ++ "]\n" := by decide
  rw [render_eq hviews, render_eq hviews'] at h
  cases views with
  | nil =>
    cases views' with
    | nil => rfl
    | cons v' views' => simp [← String.toList_inj] at h
  | cons v views =>
    cases views' with
    | nil => simp [← String.toList_inj] at h
    | cons v' views' =>
      simp only [List.isEmpty_cons, Bool.false_eq_true, if_false, hclosing,
        ← String.append_assoc] at h
      exact ReadsBack.injOn hlist trivial ⟨List.cons_ne_nil _ _, hviews⟩
        ⟨List.cons_ne_nil _ _, hviews'⟩ (congrArg String.toList h)

end Json

end AccessLayer
