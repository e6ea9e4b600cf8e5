import AccessLayer.Proofs.Files.View
import AccessLayer.Run

namespace AccessLayer

namespace Run

open Sandbox (bind_apply)

variable {σ : Type} {h : Host (StateM σ)} {o : Options} {e : Emitter}

/-- The run is not stopped before the table; it places the table's artifacts in the second state. -/
def Begins (h : Host (StateM σ)) (o : Options) (e : Emitter) (t : Table) (s s' : σ) : Prop :=
  ∃ s₁, isStopped h o s = (false, s₁) ∧ s' = if e.cancels t then (h.cancel s₁).2 else s₁

/-- The tables are passed: the artifacts of each are rendered and placed. -/
inductive Passes (h : Host (StateM σ)) (o : Options) (e : Emitter) :
    σ → Report → List Table → σ → Report → Prop where
  | nil (s : σ) (r : Report) : Passes h o e s r [] s r
  | cons {s s₁ s₂ s' : σ} {r r₁ r' : Report} {t : Table} {rest : List Table}
      {artifacts : List Artifact} (hbegins : Begins h o e t s s₁)
      (hemit : e.emitAll t = .ok artifacts) (hplace : place h o r artifacts s₁ = (.ok r₁, s₂))
      (hrest : Passes h o e s₂ { r₁ with tables := r₁.tables + 1 } rest s' r') :
      Passes h o e s r (t :: rest) s' r'

/-- What ends a run that has come to the remaining tables. -/
inductive Ends (h : Host (StateM σ)) (o : Options) (e : Emitter) (s : σ) (r : Report) :
    List Table → Except RunError Report → σ → Prop where
  | done : Ends h o e s r [] (.ok r) s
  | stopped {s' : σ} {t : Table} {rest : List Table} (hstop : isStopped h o s = (true, s')) :
      Ends h o e s r (t :: rest) (.error (.cancelled r)) s'
  | unrendered {s' : σ} {t : Table} {rest : List Table} {kind : Kind} {reason : String}
      (hbegins : Begins h o e t s s') (hemit : e.emitAll t = .error (kind, reason)) :
      Ends h o e s r (t :: rest) (.error (.unrendered t.name kind reason)) s'
  | unplaced {s₁ s' : σ} {t : Table} {rest : List Table} {artifacts : List Artifact}
      {stop : RunError} (hbegins : Begins h o e t s s₁) (hemit : e.emitAll t = .ok artifacts)
      (hplace : place h o r artifacts s₁ = (.error stop, s')) :
      Ends h o e s r (t :: rest) (.error stop) s'

/-- Only a run that looks at the flag is stopped. -/
theorem watched_of_isStopped {s s' : σ} (hstop : isStopped h o s = (true, s')) :
    o.watched = true := by
  unfold isStopped at hstop
  split at hstop
  · assumption
  · cases (Prod.mk.inj hstop).1

private theorem ite_bind_apply {β : Type} {c : Prop} [Decidable c] (x : StateM σ Unit)
    (f : Unit → StateM σ β) (s : σ) :
    (if c then x >>= f else f ()) s = f () (if c then (x s).2 else s) := by
  split
  · exact bind_apply (x := x) rfl f
  · rfl

/-- A run that has begun a table renders it and places its artifacts before it goes on. -/
theorem processTables_begun {s s₁ : σ} {t : Table} (hbegins : Begins h o e t s s₁) (r : Report)
    (rest : List Table) :
    processTables h o e r (t :: rest) s =
      match e.emitAll t with
      | .error (kind, reason) => (.error (.unrendered t.name kind reason), s₁)
      | .ok artifacts =>
        match place h o r artifacts s₁ with
        | (.error stop, s₂) => (.error stop, s₂)
        | (.ok r₁, s₂) => processTables h o e { r₁ with tables := r₁.tables + 1 } rest s₂ := by
  obtain ⟨s₀, hlook, rfl⟩ := hbegins
  rw [processTables, bind_apply hlook, if_neg Bool.false_ne_true, ite_bind_apply]
  generalize (if e.cancels t then (h.cancel s₀).2 else s₀) = s₁
  cases hemit : e.emitAll t with
  | error failed => rfl
  | ok artifacts =>
    cases hplace : place h o r artifacts s₁ with
    | mk placed s₂ =>
      simp only [bind_apply hplace, hplace]
      cases placed with
      | error stop => rfl
      | ok r₁ => rfl

/-- A run before a table is stopped there, or begins it. -/
theorem processTables_cons {s s' : σ} {r : Report} {t : Table} {rest : List Table}
    {result : Except RunError Report}
    (hrun : processTables h o e r (t :: rest) s = (result, s')) :
    Ends h o e s r (t :: rest) result s' ∨
      ∃ s₁ s₂ r₁ artifacts, Begins h o e t s s₁ ∧ e.emitAll t = .ok artifacts ∧
        place h o r artifacts s₁ = (.ok r₁, s₂) ∧
        processTables h o e { r₁ with tables := r₁.tables + 1 } rest s₂ = (result, s') := by
  cases hlook : isStopped h o s with
  | mk stopped s₀ =>
    cases stopped with
    | true =>
      rw [processTables, bind_apply hlook] at hrun
      obtain ⟨rfl, rfl⟩ := Prod.mk.inj hrun
      exact Or.inl (.stopped hlook)
    | false =>
      have hbegins : Begins h o e t s (if e.cancels t then (h.cancel s₀).2 else s₀) :=
        ⟨s₀, hlook, rfl⟩
      rw [processTables_begun hbegins] at hrun
      generalize (if e.cancels t then (h.cancel s₀).2 else s₀) = s₁ at hbegins hrun
      cases hemit : e.emitAll t with
      | error failed =>
        rw [hemit] at hrun
        obtain ⟨rfl, rfl⟩ := Prod.mk.inj hrun
        exact Or.inl (.unrendered hbegins hemit)
      | ok artifacts =>
        rw [hemit] at hrun
        cases hplace : place h o r artifacts s₁ with
        | mk placed s₂ =>
          simp only [hplace] at hrun
          cases placed with
          | error stop =>
            obtain ⟨rfl, rfl⟩ := Prod.mk.inj hrun
            exact Or.inl (.unplaced hbegins hemit hplace)
          | ok r₁ => exact Or.inr ⟨s₁, s₂, r₁, artifacts, hbegins, rfl, hplace, hrun⟩

/-- A run over tables passes the first of them, as many as it comes through, and ends at the
    others. -/
theorem processTables_course {s s' : σ} {r : Report} {tables : List Table}
    {result : Except RunError Report} (hrun : processTables h o e r tables s = (result, s')) :
    ∃ passed rest between r₁, tables = passed ++ rest ∧ Passes h o e s r passed between r₁ ∧
      Ends h o e between r₁ rest result s' := by
  induction tables generalizing r s with
  | nil =>
    obtain ⟨rfl, rfl⟩ := Prod.mk.inj hrun
    exact ⟨[], [], s, r, rfl, .nil s r, .done⟩
  | cons t rest ih =>
    rcases processTables_cons hrun with
      hends | ⟨s₁, s₂, r₁, artifacts, hbegins, hemit, hplace, hrest⟩
    · exact ⟨[], t :: rest, s, r, rfl, .nil s r, hends⟩
    · obtain ⟨passed, remaining, between, r₂, rfl, hpasses, hends⟩ := ih hrest
      exact ⟨t :: passed, remaining, between, r₂, rfl, .cons hbegins hemit hplace hpasses, hends⟩

/-- Whatever the host, what keeps an artifact from its place is that it could not be written. -/
theorem unwritten_of_place {s s' : σ} {stop : RunError} {r : Report}
    {artifacts : List Artifact}
    (hplace : place h o r artifacts s = (.error stop, s')) :
    ∃ path fault, stop = .unwritten path fault := by
  induction artifacts generalizing r s with
  | nil => cases (Prod.mk.inj hplace).1
  | cons a rest ih =>
    rw [place] at hplace
    split at hplace
    · exact ih hplace
    · cases hwrite : h.writeBelow (o.output.join a.path) a.contents s with
      | mk wrote s₁ =>
        rw [bind_apply hwrite] at hplace
        cases wrote with
        | ok done => exact ih hplace
        | error fault =>
          cases hpolicy : o.policy with
          | abort =>
            simp only [hpolicy] at hplace
            exact ⟨_, _, (Except.error.inj (Prod.mk.inj hplace).1).symm⟩
          | «continue» =>
            simp only [hpolicy] at hplace
            exact ih hplace

/-- A run that has come to its tables ends between two of them, or at an artifact. -/
theorem stop_of_processTables {s s' : σ} {stop : RunError} {r : Report} {tables : List Table}
    (hrun : processTables h o e r tables s = (.error stop, s')) :
    (∃ r₁, stop = .cancelled r₁) ∨ (∃ table kind reason, stop = .unrendered table kind reason) ∨
      ∃ path fault, stop = .unwritten path fault := by
  obtain ⟨_, _, _, _, _, _, hends⟩ := processTables_course hrun
  cases hends with
  | stopped => exact Or.inl ⟨_, rfl⟩
  | unrendered => exact Or.inr (Or.inl ⟨_, _, _, rfl⟩)
  | unplaced _ _ hplace => exact Or.inr (Or.inr (unwritten_of_place hplace))

/-- What can be read as a text is a file. -/
theorem isFile_of_readText {t : Tree} {p : Path} {text : String}
    (hread : t.readText p = .ok text) : t.entry? p = some .file := by
  obtain ⟨place, bytes, hresolve, _⟩ := Tree.readText_eq_ok_iff.mp hread
  rw [Tree.entry?, hresolve]

/-- A file is no text for one reason alone. -/
theorem notText_of_readText {t : Tree} {p : Path} {fault : FileFault}
    (hfile : t.entry? p = some .file) (hread : t.readText p = .error fault) : fault = .notText := by
  unfold Tree.readText Tree.readBytes at hread
  unfold Tree.entry? at hfile
  cases hresolve : t.resolve p with
  | error missing =>
    rw [hresolve] at hfile
    cases hfile
  | ok found =>
    obtain ⟨place, entry⟩ := found
    cases entry with
    | folder =>
      rw [hresolve] at hfile
      cases hfile
    | file bytes =>
      simp only [hresolve, bind, Except.bind] at hread
      cases htext : String.fromUTF8? bytes with
      | some text =>
        rw [htext] at hread
        cases hread
      | none =>
        rw [htext] at hread
        exact (Except.error.inj hread).symm

/-- Reading a schema comes to its text, or fails because it has none. What has none without being a
    file fails without a cause. -/
theorem readSchemaText_apply (p : Path) (s : Sandbox) :
    readSchemaText Sandbox.host p s =
      match s.tree.readText p with
      | .ok text => (.ok text, s)
      | .error fault =>
        (.error (.unusableSchema p (if s.tree.entry? p = some .file then some fault else none)), s)
    := by
  have hfile : Sandbox.host.isFile p s = (s.tree.entry? p == some .file, s) := by
    simp only [Host.isFile, Sandbox.host]
    rfl
  have hread : Sandbox.host.readText p s = (s.tree.readText p, s) := by
    simp only [Sandbox.host]
  rw [readSchemaText, bind_apply hfile]
  by_cases hthere : s.tree.entry? p = some .file
  · rw [if_pos (by simpa using hthere), bind_apply hread]
    cases s.tree.readText p with
    | ok text => rfl
    | error fault =>
      simp only [if_pos hthere]
      rfl
  · rw [if_neg (by simpa using hthere)]
    cases htext : s.tree.readText p with
    | ok text => exact absurd (isFile_of_readText htext) hthere
    | error fault =>
      simp only [if_neg hthere]
      rfl

/-- A schema is read on every host as it is in a sandbox. -/
theorem readSchemaText_mirrors {v : View σ} (hs : h.Serves v) (p : Path) :
    v.Mirrors (readSchemaText h p) (readSchemaText Sandbox.host p) := by
  unfold readSchemaText
  refine (hs.isFile p).bind fun found => ?_
  split
  · refine (hs.readText p).bind fun text => ?_
    split
    · exact v.mirrors_pure _
    · exact v.mirrors_pure _
  · exact v.mirrors_pure _

/-- A run does not know its language, or cannot read its schema, or comes to the tables of the
    schema. -/
theorem generateWith_cases {v : View σ} (hs : h.Serves v) {registry : Registry} {s s' : σ}
    {result : Except RunError Report} (hrun : generateWith h registry o s = (result, s')) :
    (registry.create? o.language o.service = none ∧
        result = .error (.unsupported o.language registry.names) ∧ s' = s) ∨
      (∃ e cause, registry.create? o.language o.service = some e ∧
        (∀ text, (v.tree s).readText o.schema ≠ .ok text) ∧
        result = .error (.unusableSchema o.schema cause) ∧ v.tree s' = v.tree s) ∨
      ∃ e text s₁, registry.create? o.language o.service = some e ∧
        (v.tree s).readText o.schema = .ok text ∧ v.tree s₁ = v.tree s ∧ v.Keeps s s₁ ∧
        processTables h o e (.start e.language o) (readSchema text) s₁ = (result, s') := by
  unfold generateWith Registry.create at hrun
  cases hcreate : registry.create? o.language o.service with
  | none =>
    rw [hcreate] at hrun
    obtain ⟨rfl, rfl⟩ := Prod.mk.inj hrun
    exact Or.inl ⟨rfl, rfl, rfl⟩
  | some e =>
    rw [hcreate] at hrun
    cases hschema : readSchemaText h o.schema s with
    | mk read s₁ =>
      simp only [bind_apply hschema] at hrun
      obtain ⟨hmirror, hkeeps⟩ := readSchemaText_mirrors hs o.schema s s₁ read hschema
      have hread := hmirror false
      rw [readSchemaText_apply] at hread
      cases htext : (v.tree s).readText o.schema with
      | ok text =>
        simp only [htext] at hread
        obtain ⟨rfl, hsame⟩ := Prod.mk.inj hread
        have htree : v.tree s₁ = v.tree s := congrArg Sandbox.tree hsame.symm
        exact Or.inr (Or.inr ⟨e, text, s₁, rfl, rfl, htree, hkeeps, hrun⟩)
      | error fault =>
        simp only [htext] at hread
        obtain ⟨rfl, hsame⟩ := Prod.mk.inj hread
        obtain ⟨rfl, rfl⟩ := Prod.mk.inj hrun
        exact Or.inr (Or.inl ⟨e, _, rfl, by simp, rfl, congrArg Sandbox.tree hsame.symm⟩)

/-- In a sandbox, what comes before the tables leaves everything as it is. -/
theorem generateWith_apply (registry : Registry) (o : Options) (s : Sandbox) :
    generateWith Sandbox.host registry o s =
      match registry.create? o.language o.service with
      | none => (.error (.unsupported o.language registry.names), s)
      | some e =>
        match s.tree.readText o.schema with
        | .error fault =>
          (.error (.unusableSchema o.schema
            (if s.tree.entry? o.schema = some .file then some fault else none)), s)
        | .ok text =>
          processTables Sandbox.host o e (.start e.language o) (readSchema text) s := by
  unfold generateWith Registry.create
  cases registry.create? o.language o.service with
  | none => rfl
  | some e =>
    have hschema := readSchemaText_apply o.schema s
    cases htext : s.tree.readText o.schema with
    | ok text =>
      rw [htext] at hschema
      exact bind_apply hschema _
    | error fault =>
      rw [htext] at hschema
      exact bind_apply hschema _

end Run

end AccessLayer
