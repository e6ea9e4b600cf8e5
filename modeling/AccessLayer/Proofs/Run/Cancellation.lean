import AccessLayer.Files.Watch
import AccessLayer.Proofs.Run.Placed

namespace AccessLayer

namespace Watch

/-- Actions on files do not look at the flag. A signal may raise it before them. -/
def view : View Watch where
  tree w := w.tree
  Keeps w w' := w'.looks = w.looks ∧
    (w'.raised = w.raised ∨ w.raised = none ∧ w'.raised = some w.looks)
  refl w := ⟨rfl, Or.inl rfl⟩
  trans := by
    rintro w w' w'' ⟨hlooks, hraised⟩ ⟨hlooks', hraised'⟩
    refine ⟨hlooks'.trans hlooks, ?_⟩
    rw [hlooks] at hraised'
    rcases hraised with hsame | ⟨hnone, hsome⟩
    · rwa [hsame] at hraised'
    · rcases hraised' with hsame | ⟨hdown, _⟩
      · exact Or.inr ⟨hnone, hsame.trans hsome⟩
      · rw [hsome] at hdown
        cases hdown

private theorem keeps_raise (w : Watch) : view.Keeps w w.raise := by
  refine ⟨rfl, ?_⟩
  cases hraised : w.raised with
  | none => exact Or.inr ⟨rfl, by simp [raise, hraised]⟩
  | some n => exact Or.inl (by simp [raise, hraised])

private theorem keeps_tick (w : Watch) : view.Keeps w w.tick := by
  unfold tick
  split
  · exact view.refl w
  · exact keeps_raise w
  · exact view.refl w

private theorem tick_tree (w : Watch) : w.tick.tree = w.tree := by
  unfold tick
  split <;> rfl

private theorem onFiles_mirrors {α : Type} {x : StateM Sandbox α}
    (hx : Sandbox.view.Mirrors x x) : view.Mirrors (onFiles x) x := by
  intro w w' a h
  cases hfiles : x ⟨w.tree, w.raised.isSome⟩ with
  | mk b s =>
    unfold onFiles at h
    rw [hfiles] at h
    obtain ⟨rfl, rfl⟩ := Prod.mk.inj h
    exact ⟨(hx _ _ _ hfiles).1, keeps_tick w⟩

/-- The signals of a watch do nothing to its files. -/
theorem serves_view : host.Serves view where
  entry? p := onFiles_mirrors (Sandbox.serves_view.entry? p)
  readText p := onFiles_mirrors (Sandbox.serves_view.readText p)
  makeFolder p := by
    simp only [host]
    exact onFiles_mirrors (Sandbox.serves_view.makeFolder p)
  writeText p contents := by
    simp only [host]
    exact onFiles_mirrors (Sandbox.serves_view.writeText p contents)
  isCancelled w := tick_tree w
  cancel w := tick_tree w

/-- The flag has been looked at `n` times. If it is raised, it has been since the last look. -/
structure Looked (w : Watch) (n : Nat) : Prop where
  looks : w.looks = n
  raised : w.raised = none ∨ w.raised = some n

/-- Dealing with files looks at no flag, so that the count stays what it is. -/
theorem Looked.keeps {w w' : Watch} {n : Nat} (h : w.Looked n) (hkeeps : view.Keeps w w') :
    w'.Looked n := by
  obtain ⟨hlooks, hraised⟩ := hkeeps
  refine ⟨hlooks.trans h.looks, ?_⟩
  rcases hraised with hsame | ⟨_, hsome⟩
  · rw [hsame]
    exact h.raised
  · rw [hsome, h.looks]
    exact Or.inr rfl

/-- A raised flag tells how often it has been looked at. -/
theorem Looked.eq_of_raised {w : Watch} {n k : Nat} (h : w.Looked n) (hraised : w.raised = some k) :
    k = n := by
  rcases h.raised with hdown | hsome
  · rw [hdown] at hraised
    cases hraised
  · exact Option.some.inj (hraised.symm.trans hsome)

private theorem looked_start (t : Tree) (raised : Bool) (signal : Option Nat) :
    (start t raised signal).Looked 0 := by
  refine ⟨rfl, ?_⟩
  cases raised with
  | true => exact Or.inr rfl
  | false => exact Or.inl rfl

end Watch

namespace Run

open Watch

variable {o : Options} {e : Emitter} {w w' : Watch} {n : Nat}

/-- A run is stopped by a flag that was raised since the look before. -/
theorem raised_of_isStopped (hstop : isStopped host o w = (true, w')) (hlooked : w.Looked n) :
    w'.raised = some n := by
  have hwatched := watched_of_isStopped hstop
  unfold isStopped at hstop
  rw [if_pos hwatched] at hstop
  obtain ⟨hraised, rfl⟩ := Prod.mk.inj hstop
  rcases (hlooked.keeps (keeps_tick w)).raised with hdown | hsome
  · rw [hdown] at hraised
    cases hraised
  · exact hsome

/-- When a table is begun, the flag has been looked at once more and was found down. -/
theorem Begins.looked {t : Table} (hwatched : o.watched = true) (hbegins : Begins host o e t w w')
    (hlooked : w.Looked n) : w'.Looked (n + 1) := by
  obtain ⟨w₁, hlook, rfl⟩ := hbegins
  unfold isStopped at hlook
  rw [if_pos hwatched] at hlook
  obtain ⟨hdown, rfl⟩ := Prod.mk.inj hlook
  have hbegun : Looked { w.tick with looks := w.looks + 1 } (n + 1) := by
    refine ⟨congrArg (· + 1) hlooked.looks, Or.inl ?_⟩
    simpa using hdown
  split
  · exact hbegun.keeps (view.trans (keeps_tick _) (keeps_raise _))
  · exact hbegun

/-- The flag is looked at once for each table that is passed. -/
theorem Passes.looked {r r' : Report} {tables : List Table} (hwatched : o.watched = true)
    (hpasses : Passes host o e w r tables w' r') (hlooked : w.Looked n) :
    w'.Looked (n + tables.length) := by
  induction hpasses generalizing n with
  | nil => exact hlooked
  | cons hbegins _ hplace _ ih =>
    have hbegun := hbegins.looked hwatched hlooked
    have hplaced := hbegun.keeps (placing_of_place serves_view hplace).2
    rw [List.length_cons, Nat.add_comm _ 1, ← Nat.add_assoc]
    exact ih hplaced

/-- The failure is the table's own: one of its artifacts cannot be rendered, or cannot be written in
    a run that then aborts. -/
inductive OwnFailure (o : Options) (e : Emitter) (t : Table) : RunError → Prop where
  | unrendered {kind : Kind} {reason : String} (hemit : e.emitAll t = .error (kind, reason)) :
      OwnFailure o e t (.unrendered t.name kind reason)
  | unwritten {artifacts : List Artifact} {a : Artifact} {fault : FileFault}
      (hemit : e.emitAll t = .ok artifacts) (ha : a ∈ artifacts) (hpolicy : o.policy = .abort) :
      OwnFailure o e t (.unwritten (o.output.join a.path) fault)

/-- What the moment at which the flag was raised, told by how many tables had been begun, has to do
    with how the run ends. -/
structure CutBetweenTables (o : Options) (e : Emitter) (t : Tree) (tables : List Table)
    (result : Except RunError Report) (w : Watch) : Prop where
  /-- A cancelled run covers the tables that were begun before, and a table is left. -/
  cut : ∀ r, result = .error (.cancelled r) → o.watched = true ∧ w.raised = some r.tables ∧
    r.tables < tables.length ∧ Covers o e t (tables.take r.tables) r w.tree
  /-- The table that was begun last is completed and none is begun after it, unless it fails. -/
  begun : ∀ k table, o.watched = true → w.raised = some (k + 1) → tables[k]? = some table →
    (∃ stop, result = .error stop ∧ OwnFailure o e table stop) ∨
      ∃ r, Covers o e t (tables.take (k + 1)) r w.tree ∧
        result = if k + 1 < tables.length then .error (.cancelled r) else .ok r
  /-- No table is begun once the flag is raised. -/
  first : o.watched = true → w.raised = some 0 → tables ≠ [] →
    ∃ r, result = .error (.cancelled r) ∧ r.tables = 0
  /-- A flag that is raised after the last table was begun, or never, is not seen. -/
  late : (∀ k, w.raised = some k → tables.length ≤ k) → ∀ r, result ≠ .error (.cancelled r)

variable {t : Tree} {passed rest : List Table} {table : Table} {r : Report}

private theorem cut_of_done (hcovers : Covers o e t passed r w.tree)
    (hlooked : o.watched = true → w.Looked passed.length) :
    CutBetweenTables o e t passed (.ok r) w where
  cut r' hresult := by cases hresult
  begun k other hwatched hraised hother := by
    have hk : k + 1 = passed.length := (hlooked hwatched).eq_of_raised hraised
    refine Or.inr ⟨r, ?_, ?_⟩
    · rw [hk, List.take_length]
      exact hcovers
    · rw [if_neg (by omega)]
  first hwatched hraised hne := by
    have hnone : 0 = passed.length := (hlooked hwatched).eq_of_raised hraised
    exact absurd (List.length_eq_zero_iff.mp hnone.symm) hne
  late _ r' hresult := by cases hresult

private theorem cut_of_stopped (hcovers : Covers o e t passed r w.tree)
    (hwatched : o.watched = true) (hraised : w.raised = some passed.length) :
    CutBetweenTables o e t (passed ++ table :: rest) (.error (.cancelled r)) w where
  cut r' hresult := by
    obtain rfl := RunError.cancelled.inj (Except.error.inj hresult)
    refine ⟨hwatched, ?_, ?_, ?_⟩
    · rw [hcovers.count, hraised]
    · rw [hcovers.count, List.length_append, List.length_cons]
      omega
    · rw [hcovers.count, List.take_left]
      exact hcovers
  begun k other _ hk _ := by
    have hlength : k + 1 = passed.length := Option.some.inj (hk.symm.trans hraised)
    refine Or.inr ⟨r, ?_, ?_⟩
    · rw [hlength, List.take_left]
      exact hcovers
    · rw [if_pos]
      rw [hlength, List.length_append, List.length_cons]
      omega
  first _ hzero _ := by
    have hlength : 0 = passed.length := Option.some.inj (hzero.symm.trans hraised)
    exact ⟨r, rfl, hcovers.count.trans hlength.symm⟩
  late hlate := by
    have hbound := hlate _ hraised
    rw [List.length_append, List.length_cons] at hbound
    omega

private theorem cut_of_failure {stop : RunError} (hfails : OwnFailure o e table stop)
    (hlooked : o.watched = true → w.Looked (passed.length + 1)) :
    CutBetweenTables o e t (passed ++ table :: rest) (.error stop) w := by
  have hother : ∀ r, Except.error stop ≠ Except.ok r ∧
      (Except.error stop : Except RunError Report) ≠ .error (.cancelled r) := by
    intro r
    cases hfails <;> simp
  refine ⟨fun r hresult => absurd hresult (hother r).2, ?_, ?_, fun _ r => (hother r).2⟩
  · intro k other hwatched hraised hk
    obtain rfl : k = passed.length := Nat.succ.inj ((hlooked hwatched).eq_of_raised hraised)
    rw [List.getElem?_append_right (Nat.le_refl _), Nat.sub_self] at hk
    obtain rfl := Option.some.inj hk
    exact Or.inl ⟨stop, rfl, hfails⟩
  · intro hwatched hraised _
    cases (hlooked hwatched).eq_of_raised hraised

private theorem cut_of_processTables {l : Language} {tables : List Table}
    {result : Except RunError Report} (hlooked : w.Looked 0)
    (hrun : processTables host o e (.start l o) tables w = (result, w')) :
    CutBetweenTables o e w.tree tables result w' := by
  obtain ⟨passed, rest, between, r, rfl, hpasses, hends⟩ := processTables_course hrun
  have hcovers : Covers o e w.tree passed r between.tree := hpasses.covers serves_view
  have hbetween (hwatched : o.watched = true) : between.Looked passed.length := by
    have hpassed := hpasses.looked hwatched hlooked
    rwa [Nat.zero_add] at hpassed
  cases hends with
  | done =>
    rw [List.append_nil]
    exact cut_of_done hcovers hbetween
  | stopped hstop =>
    have hwatched := watched_of_isStopped hstop
    have htree : w'.tree = between.tree := by
      have hsame := isStopped_tree (o := o) serves_view between
      rwa [hstop] at hsame
    rw [← htree] at hcovers
    exact cut_of_stopped hcovers hwatched (raised_of_isStopped hstop (hbetween hwatched))
  | unrendered hbegins hemit =>
    exact cut_of_failure (.unrendered hemit) fun hwatched =>
      hbegins.looked hwatched (hbetween hwatched)
  | unplaced hbegins hemit hplace =>
    obtain ⟨hplacing, hkeeps⟩ := placing_of_place serves_view hplace
    have hlooked' (hwatched : o.watched = true) : w'.Looked (passed.length + 1) :=
      (hbegins.looked hwatched (hbetween hwatched)).keeps hkeeps
    cases hplacing with
    | failed hsplit hfails =>
      exact cut_of_failure (.unwritten hemit (by simp [hsplit]) hfails.policy) hlooked'

/-- Whenever the flag of a run is raised, the run is cut between two tables, if at all. -/
theorem cancellation_cuts_between_tables (registry : Registry) (o : Options) (t : Tree)
    (raised : Bool) (signal : Option Nat) (result : Except RunError Report) (w : Watch)
    (hrun : (generateWith host registry o).run (.start t raised signal) = (result, w)) :
    (∀ r, result = .error (.cancelled r) → ∃ e text,
        registry.create? o.language o.service = some e ∧ t.readText o.schema = .ok text) ∧
      ∀ e text, registry.create? o.language o.service = some e →
        t.readText o.schema = .ok text →
        CutBetweenTables o e t (readSchema text) result w := by
  rw [StateT.run] at hrun
  rcases generateWith_cases serves_view hrun with
    ⟨hcreate, rfl, _⟩ | ⟨e, cause, hcreate, hunread, rfl, _⟩ |
      ⟨e, text, w₁, hcreate, hread, htree, hkeeps, hrest⟩
  · refine ⟨by simp, fun e text he => ?_⟩
    rw [hcreate] at he
    cases he
  · exact ⟨by simp, fun e text _ hread => absurd hread (hunread text)⟩
  · refine ⟨fun _ _ => ⟨e, text, hcreate, hread⟩, fun e' text' hcreate' hread' => ?_⟩
    obtain rfl := Option.some.inj (hcreate.symm.trans hcreate')
    obtain rfl := Except.ok.inj (hread.symm.trans hread')
    have hcut := cut_of_processTables ((looked_start t raised signal).keeps hkeeps) hrest
    have htree' : w₁.tree = t := htree
    rwa [htree'] at hcut

/-- A tree with a schema of two tables, in which a folder stands where the store of the first is to
    go. -/
def blocked : Tree :=
  ⟨[(["shop.sql"], .file "CREATE TABLE users (id UUID);CREATE TABLE orders (id UUID);".toUTF8),
    (["out"], .folder), (["out", "pg_users_dao.go"], .folder)], []⟩

/-- A watched run that notes failures and goes on. -/
def watchedOptions : Options :=
  { Options.ofSchema ⟨"shop.sql"⟩ "go" with
    output := ⟨"out"⟩
    policy := .continue
    watched := true }

/-- A signal that comes while the first table is written lets it be completed, failure included, and
    keeps the second from being begun. -/
theorem cancellation_cuts_between_tables_users :
    ∃ r w, (generateWith host .builtIn watchedOptions).run (.start blocked false (some 8)) =
        (.error (.cancelled r), w) ∧
      r.tables = 1 ∧ w.raised = some 1 ∧
      r.written = [⟨"out/users.go"⟩, ⟨"out/users_dao.go"⟩, ⟨"out/mock_users_dao.go"⟩] ∧
      r.failures.map (·.path) = [⟨"out/pg_users_dao.go"⟩] ∧
      ∃ e text, (readSchema text).length = 2 ∧
        CutBetweenTables watchedOptions e blocked (readSchema text) (.error (.cancelled r)) w := by
  have hreport : ((generateWith host .builtIn watchedOptions).run
      (.start blocked false (some 8))).1 = .error (.cancelled
        { Report.start .go watchedOptions with
          tables := 1
          written := [⟨"out/users.go"⟩, ⟨"out/users_dao.go"⟩, ⟨"out/mock_users_dao.go"⟩]
          failures := [⟨⟨"out/pg_users_dao.go"⟩, FileFault.isFolder.message⟩] }) := by
    decide +kernel
  have hread : blocked.readText ⟨"shop.sql"⟩ =
      .ok "CREATE TABLE users (id UUID);CREATE TABLE orders (id UUID);" := by
    decide +kernel
  have hcreate := Registry.create_builtIn "go" "service"
  have hlength :
      (readSchema "CREATE TABLE users (id UUID);CREATE TABLE orders (id UUID);").length = 2 := by
    decide +kernel
  cases hrun : (generateWith host .builtIn watchedOptions).run (.start blocked false (some 8)) with
  | mk result w =>
    rw [hrun] at hreport
    simp only at hreport
    subst hreport
    have hcut := (cancellation_cuts_between_tables .builtIn watchedOptions blocked false (some 8) _
      w hrun).2 _ _ hcreate hread
    exact ⟨_, w, rfl, rfl, (hcut.cut _ rfl).2.1, rfl, rfl, _, _, hlength, hcut⟩

end Run

end AccessLayer
