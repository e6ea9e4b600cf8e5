import AccessLayer.Proofs.Run.Placed

namespace AccessLayer

namespace Emitter

variable {e : Emitter} {t : Table} {kind : Kind} {reason : String}

/-- Among some kinds, this is the first that cannot be rendered. Those before it have no path or are
    rendered. -/
structure FirstUnrendered (e : Emitter) (t : Table) (kinds : List Kind) (kind : Kind)
    (reason : String) : Prop where
  path : (e.path? t kind).isSome
  fails : e.render (e.blueprint t) kind = .error reason
  first : ∃ earlier later, kinds = earlier ++ kind :: later ∧ ∀ k ∈ earlier,
    e.path? t k = none ∨ ∃ contents, e.render (e.blueprint t) k = .ok contents

private theorem firstUnrendered_cons_iff {k : Kind} {kinds : List Kind}
    (hpassed : e.path? t k = none ∨ ∃ contents, e.render (e.blueprint t) k = .ok contents) :
    FirstUnrendered e t (k :: kinds) kind reason ↔ FirstUnrendered e t kinds kind reason := by
  constructor
  · rintro ⟨hpath, hfails, earlier, later, hsplit, hearlier⟩
    refine ⟨hpath, hfails, ?_⟩
    cases earlier with
    | nil =>
      obtain ⟨rfl, _⟩ := List.cons.inj hsplit
      rcases hpassed with hnone | ⟨contents, hok⟩
      · rw [hnone] at hpath
        cases hpath
      · rw [hok] at hfails
        cases hfails
    | cons k' earlier =>
      obtain ⟨_, rfl⟩ := List.cons.inj hsplit
      refine ⟨earlier, later, rfl, fun other hother => ?_⟩
      exact hearlier other (List.mem_cons_of_mem _ hother)
  · rintro ⟨hpath, hfails, earlier, later, rfl, hearlier⟩
    refine ⟨hpath, hfails, k :: earlier, later, rfl, fun other hother => ?_⟩
    rcases List.mem_cons.mp hother with rfl | hmem
    · exact hpassed
    · exact hearlier other hmem

private theorem firstUnrendered_head_iff {k : Kind} {kinds : List Kind} {found : String}
    {path : Path} (hpath : e.path? t k = some path)
    (hfails : e.render (e.blueprint t) k = .error found) :
    FirstUnrendered e t (k :: kinds) kind reason ↔ k = kind ∧ found = reason := by
  constructor
  · rintro ⟨_, hreason, earlier, later, hsplit, hearlier⟩
    cases earlier with
    | nil =>
      obtain ⟨rfl, _⟩ := List.cons.inj hsplit
      exact ⟨rfl, Except.error.inj (hfails.symm.trans hreason)⟩
    | cons k' earlier =>
      obtain ⟨rfl, _⟩ := List.cons.inj hsplit
      rcases hearlier k List.mem_cons_self with hnone | ⟨contents, hok⟩
      · rw [hnone] at hpath
        cases hpath
      · rw [hok] at hfails
        cases hfails
  · rintro ⟨rfl, rfl⟩
    exact ⟨by rw [hpath]; rfl, hfails, [], kinds, rfl, by simp⟩

/-- Rendering some kinds fails exactly at the first that cannot be rendered, with its reason. Kinds
    without a path are passed over. -/
theorem emitKinds_eq_error_iff {kinds : List Kind} :
    e.emitKinds t kinds = .error (kind, reason) ↔ FirstUnrendered e t kinds kind reason := by
  induction kinds with
  | nil =>
    constructor
    · intro h
      cases h
    · rintro ⟨_, _, earlier, later, hsplit, _⟩
      cases earlier <;> cases hsplit
  | cons k kinds ih =>
    rw [emitKinds]
    cases hpath : e.path? t k with
    | none => exact ih.trans (firstUnrendered_cons_iff (Or.inl hpath)).symm
    | some path =>
      cases hrender : e.render (e.blueprint t) k with
      | error found =>
        simp only [firstUnrendered_head_iff hpath hrender, Except.error.injEq, Prod.mk.injEq]
      | ok contents =>
        have hlater := ih.trans (firstUnrendered_cons_iff (Or.inr ⟨contents, hrender⟩)).symm
        cases contents with
        | none => exact hlater
        | some text =>
          rw [← hlater]
          cases e.emitKinds t kinds with
          | error failed => exact Iff.rfl
          | ok artifacts => simp [Except.map]

/-- A table cannot be rendered when one of its artifacts cannot be. -/
theorem emitAll_eq_error_iff :
    e.emitAll t = .error (kind, reason) ↔ FirstUnrendered e t Kind.all kind reason :=
  emitKinds_eq_error_iff

end Emitter

namespace Run

open Sandbox

variable {σ : Type} {h : Host (StateM σ)} {o : Options} {e : Emitter}

/-- A run over more tables is a run over the first of them, which goes on with the others unless it
    has ended. -/
theorem processTables_append (tables more : List Table) (r : Report) (s : σ) :
    processTables h o e r (tables ++ more) s =
      match processTables h o e r tables s with
      | (.error stop, s₁) => (.error stop, s₁)
      | (.ok r₁, s₁) => processTables h o e r₁ more s₁ := by
  induction tables generalizing r s with
  | nil => rfl
  | cons t rest ih =>
    cases hlook : isStopped h o s with
    | mk stopped s₀ =>
      cases stopped with
      | true =>
        rw [List.cons_append, processTables, bind_apply hlook, processTables, bind_apply hlook]
        rfl
      | false =>
        have hbegins : Begins h o e t s (if e.cancels t then (h.cancel s₀).2 else s₀) :=
          ⟨s₀, hlook, rfl⟩
        rw [List.cons_append, processTables_begun hbegins, processTables_begun hbegins]
        cases e.emitAll t with
        | error failed => rfl
        | ok artifacts =>
          simp only
          cases place h o r artifacts (if e.cancels t then (h.cancel s₀).2 else s₀) with
          | mk placed s₂ =>
            cases placed with
            | error stop => rfl
            | ok r₁ => exact ih _ s₂

private theorem generateWith_of_unread {registry : Registry} {s : Sandbox}
    (hcreate : registry.create? o.language o.service = some e)
    (hunread : ∀ text, s.tree.readText o.schema ≠ .ok text) :
    generateWith host registry o s = (.error (.unusableSchema o.schema
      (if s.tree.entry? o.schema = some .file then some .notText else none)), s) := by
  rw [generateWith_apply, hcreate]
  cases hread : s.tree.readText o.schema with
  | ok text => exact absurd hread (hunread text)
  | error fault =>
    by_cases hfile : s.tree.entry? o.schema = some .file
    · obtain rfl := notText_of_readText hfile hread
      simp only [if_pos hfile]
    · simp only [if_neg hfile]

private theorem generateWith_of_read {registry : Registry} {s : Sandbox} {text : String}
    (hcreate : registry.create? o.language o.service = some e)
    (hread : s.tree.readText o.schema = .ok text) :
    generateWith host registry o s =
      processTables host o e (.start e.language o) (readSchema text) s := by
  rw [generateWith_apply, hcreate]
  simp only [hread]

/-- How a run over tables ends at one that cannot be rendered, told by a run over the tables before
    it alone. -/
structure NoTrace (o : Options) (e : Emitter) (s : Sandbox) (before : List Table) (table : Table)
    (kind : Kind) (reason : String) (result : Except RunError Report) (s' : Sandbox) : Prop where
  /-- What ends the run over the tables before it ends the whole run. -/
  ended : ∀ stop s₁, processTables host o e (.start e.language o) before s = (.error stop, s₁) →
    result = .error stop ∧ s' = s₁
  cancelled : ∀ r s₁, processTables host o e (.start e.language o) before s = (.ok r, s₁) →
    o.watched = true → s₁.cancelled = true → result = .error (.cancelled r) ∧ s' = s₁
  /-- Otherwise the tables before it have left the tree as it is. -/
  unrendered : ∀ r s₁, processTables host o e (.start e.language o) before s = (.ok r, s₁) →
    (o.watched = false ∨ s₁.cancelled = false) →
    result = .error (.unrendered table.name kind reason) ∧ s'.tree = s₁.tree ∧
      Covers o e s.tree before r s₁.tree

private theorem noTrace_of_processTables {s s' : Sandbox} {before after : List Table}
    {table : Table} {kind : Kind} {reason : String} {result : Except RunError Report}
    (hemit : e.emitAll table = .error (kind, reason))
    (hrun : processTables host o e (.start e.language o) (before ++ table :: after) s =
      (result, s')) :
    NoTrace o e s before table kind reason result s' := by
  rw [processTables_append] at hrun
  refine ⟨fun stop s₁ hbefore => ?_, fun r s₁ hbefore hwatched hraised => ?_,
    fun r s₁ hbefore hdown => ?_⟩
  · rw [hbefore] at hrun
    obtain ⟨rfl, rfl⟩ := Prod.mk.inj hrun
    exact ⟨rfl, rfl⟩
  · rw [hbefore] at hrun
    have hstop : isStopped host o s₁ = (true, s₁) := by rw [isStopped_eq, hwatched, hraised]; rfl
    simp only [processTables, bind_apply hstop] at hrun
    obtain ⟨rfl, rfl⟩ := Prod.mk.inj hrun
    exact ⟨rfl, rfl⟩
  · rw [hbefore] at hrun
    have hgo : isStopped host o s₁ = (false, s₁) := by
      rw [isStopped_eq]
      rcases hdown with hdown | hdown <;> simp [hdown]
    have hbegins : Begins host o e table s₁ (if e.cancels table then (host.cancel s₁).2 else s₁) :=
      ⟨s₁, hgo, rfl⟩
    simp only [processTables_begun hbegins, hemit] at hrun
    obtain ⟨rfl, rfl⟩ := Prod.mk.inj hrun
    obtain ⟨passed, rest, between, r₁, rfl, hpasses, hends⟩ := processTables_course hbefore
    cases hends
    rw [List.append_nil]
    exact ⟨rfl, hbegins.tree_eq serves_view, hpasses.covers serves_view⟩

private theorem exists_unrendered_of_processTables {s s' : Sandbox} {tables : List Table}
    {name : String} {kind : Kind} {reason : String} {r : Report}
    (hrun : processTables host o e r tables s = (.error (.unrendered name kind reason), s')) :
    ∃ before table after, tables = before ++ table :: after ∧ table.name = name ∧
      e.emitAll table = .error (kind, reason) := by
  obtain ⟨before, rest, between, r₁, rfl, _, hends⟩ := processTables_course hrun
  cases hends with
  | @unrendered _ table after _ _ _ hemit => exact ⟨before, table, after, rfl, rfl, hemit⟩
  | unplaced _ _ hplace =>
    obtain ⟨hplacing, _⟩ := placing_of_place serves_view hplace
    cases hplacing

end Run

/-- A registry makes an emitter for the languages that it resolves. -/
theorem Registry.create?_eq_none_iff (registry : Registry) (asked service : String) :
    registry.create? asked service = none ↔ registry.resolve? asked = none := by
  unfold create? resolve?
  cases Language.ofName? asked with
  | none => simp
  | some l => cases hmaker : registry.maker? l <;> simp [Option.filter, hmaker]

namespace Run

open Sandbox

/-- What ends a run before it writes the artifacts of a table leaves no trace of that table. -/
theorem errors_before_writes_leave_no_trace (registry : Registry) (o : Options) (s : Sandbox) :
    (registry.resolve? o.language = none →
        (generateWith host registry o).run s =
          (.error (.unsupported o.language registry.names), s)) ∧
      (∀ l, registry.resolve? o.language = some l →
        (∀ text, s.tree.readText o.schema ≠ .ok text) →
        (generateWith host registry o).run s = (.error (.unusableSchema o.schema
          (if s.tree.entry? o.schema = some .file then some .notText else none)), s)) ∧
      (∀ e text before table after kind reason result s',
        registry.create? o.language o.service = some e → s.tree.readText o.schema = .ok text →
        readSchema text = before ++ table :: after →
        e.FirstUnrendered table Kind.all kind reason →
        (generateWith host registry o).run s = (result, s') →
        NoTrace o e s before table kind reason result s') ∧
      ∀ name kind reason s',
        (generateWith host registry o).run s = (.error (.unrendered name kind reason), s') →
        ∃ e text before table after, registry.create? o.language o.service = some e ∧
          s.tree.readText o.schema = .ok text ∧ readSchema text = before ++ table :: after ∧
          table.name = name ∧ e.FirstUnrendered table Kind.all kind reason := by
  simp only [StateT.run]
  refine ⟨fun hresolve => ?_, fun l hresolve hunread => ?_,
    fun e text before table after kind reason result s' hcreate hread htables hfirst hrun => ?_,
    fun name kind reason s' hrun => ?_⟩
  · rw [generateWith_apply, (registry.create?_eq_none_iff _ o.service).mpr hresolve]
  · cases hcreate : registry.create? o.language o.service with
    | none =>
      rw [(registry.create?_eq_none_iff _ o.service).mp hcreate] at hresolve
      cases hresolve
    | some e => exact generateWith_of_unread hcreate hunread
  · rw [generateWith_of_read hcreate hread, htables] at hrun
    exact noTrace_of_processTables (Emitter.emitAll_eq_error_iff.mpr hfirst) hrun
  · rcases generateWith_cases serves_view hrun with
      ⟨_, hother, _⟩ | ⟨_, _, _, _, hother, _⟩ | ⟨e, text, s₁, hcreate, hread, _, _, hrest⟩
    · cases hother
    · cases hother
    · obtain ⟨before, table, after, htables, hname, hemit⟩ :=
        exists_unrendered_of_processTables hrest
      exact ⟨e, text, before, table, after, hcreate, hread, htables, hname,
        Emitter.emitAll_eq_error_iff.mp hemit⟩

/-- An emitter that cannot render the store of one table. -/
def faultyEmitter (service : String) : Emitter :=
  { Emitter.builtIn .go service with
    render := fun b kind =>
      if b.table = "orders" ∧ kind = .store then .error "broken" else .ok (b.render? kind) }

/-- A registry for which one table cannot be rendered. -/
def faulty : Registry := Registry.empty.register .go faultyEmitter

/-- A sandbox with a schema of two tables, and nothing else. -/
def untouched : Sandbox :=
  ⟨⟨[(["shop.sql"], .file "CREATE TABLE users (id UUID);CREATE TABLE orders (id UUID);".toUTF8)],
    []⟩, false⟩

/-- A run that writes next to the schema. -/
def faultyOptions : Options := { Options.ofSchema ⟨"shop.sql"⟩ "golang" with output := ⟨"out"⟩ }

/-- A table whose only column is its key. -/
def keyOnly (name : String) : Table := ⟨name, [⟨"id", .uuid, true, false, none⟩]⟩

private theorem resolve_golang : faulty.resolve? "golang" = some .go := by
  have hgolang : Language.ofName? "golang" = some .go := by decide
  rw [Registry.resolve?, hgolang]
  rfl

private theorem resolve_rust : faulty.resolve? "rust" = none := by
  have hrust : Language.ofName? "rust" = some .rust := by decide
  rw [Registry.resolve?, hrust]
  rfl

private theorem create_golang (service : String) :
    faulty.create? "golang" service = some (faultyEmitter service) := by
  have hgolang : Language.ofName? "golang" = some .go := by decide
  rw [Registry.create?, hgolang]
  rfl

private theorem orders_unrendered (service : String) :
    (faultyEmitter service).FirstUnrendered (keyOnly "orders") Kind.all .store "broken" := by
  refine ⟨rfl, rfl, [.model, .contract], [.mock, .wiring], rfl, fun k hk => Or.inr ?_⟩
  rcases List.mem_pair.mp hk with rfl | rfl
  · exact ⟨_, rfl⟩
  · exact ⟨_, rfl⟩

private theorem users_processed :
    (processTables host faultyOptions (faultyEmitter "service") (.start .go faultyOptions)
        [keyOnly "users"] untouched).1 =
      .ok { Report.start .go faultyOptions with
        tables := 1
        written := [⟨"out/users.go"⟩, ⟨"out/users_dao.go"⟩, ⟨"out/pg_users_dao.go"⟩,
          ⟨"out/mock_users_dao.go"⟩] } := by
  decide +kernel

/-- The first table is written and the second is not, though its model and its contract can be
    rendered. -/
theorem errors_before_writes_leave_no_trace_orders :
    (generateWith host faulty { faultyOptions with language := "rust" }).run untouched =
        (.error (.unsupported "rust" ["go"]), untouched) ∧
      (generateWith host faulty { faultyOptions with schema := ⟨"none.sql"⟩ }).run untouched =
        (.error (.unusableSchema ⟨"none.sql"⟩ none), untouched) ∧
      ∃ before table after r s₁ s', readSchema
          "CREATE TABLE users (id UUID);CREATE TABLE orders (id UUID);" = before ++ table :: after ∧
        (faultyEmitter "service").FirstUnrendered table Kind.all .store "broken" ∧
        processTables host faultyOptions (faultyEmitter "service") (.start .go faultyOptions) before
          untouched = (.ok r, s₁) ∧
        (generateWith host faulty faultyOptions).run untouched =
          (.error (.unrendered "orders" .store "broken"), s') ∧
        s'.tree = s₁.tree ∧ s'.tree.entry? ⟨"out/users.go"⟩ = some .file ∧
        s'.tree.entry? ⟨"out/orders.go"⟩ = none := by
  have hread : untouched.tree.readText ⟨"shop.sql"⟩ =
      .ok "CREATE TABLE users (id UUID);CREATE TABLE orders (id UUID);" := by decide +kernel
  have htables : readSchema "CREATE TABLE users (id UUID);CREATE TABLE orders (id UUID);" =
      [keyOnly "users"] ++ keyOnly "orders" :: [] := by decide +kernel
  have hunread (text : String) : untouched.tree.readText ⟨"none.sql"⟩ ≠ .ok text := by
    have hfault : untouched.tree.readText ⟨"none.sql"⟩ = .error .notFound := by decide +kernel
    simp [hfault]
  have hentries : ((generateWith host faulty faultyOptions).run untouched).2.tree.entry?
        ⟨"out/users.go"⟩ = some .file ∧
      ((generateWith host faulty faultyOptions).run untouched).2.tree.entry?
        ⟨"out/orders.go"⟩ = none := by decide +kernel
  obtain ⟨hunsupported, -, -, -⟩ := errors_before_writes_leave_no_trace faulty
    { faultyOptions with language := "rust" } untouched
  obtain ⟨-, hunusable, -, -⟩ := errors_before_writes_leave_no_trace faulty
    { faultyOptions with schema := ⟨"none.sql"⟩ } untouched
  obtain ⟨-, -, hunrendered, -⟩ :=
    errors_before_writes_leave_no_trace faulty faultyOptions untouched
  refine ⟨hunsupported resolve_rust, hunusable .go resolve_golang hunread, ?_⟩
  have hbefore := users_processed
  cases hpassed : processTables host faultyOptions (faultyEmitter "service")
      (.start .go faultyOptions) [keyOnly "users"] untouched with
  | mk done s₁ =>
    rw [hpassed] at hbefore
    simp only at hbefore
    subst hbefore
    cases hrun : (generateWith host faulty faultyOptions).run untouched with
    | mk result s' =>
      rw [hrun] at hentries
      have hfirst := orders_unrendered "service"
      obtain ⟨rfl, htree, -⟩ := (hunrendered _ _ _ _ _ _ _ _ _ (create_golang "service") hread
        htables hfirst hrun).unrendered _ _ hpassed (Or.inl rfl)
      exact ⟨_, _, _, _, _, _, htables, hfirst, hpassed, rfl, htree, hentries⟩

end Run

end AccessLayer
