import AccessLayer.Proofs.Run.Trace

namespace AccessLayer

namespace Registry

variable {l k : Language} {make : EmitterMaker} {entries : List (Language × EmitterMaker)}

private theorem lookup_entry (k held : Language) (other : EmitterMaker) :
    ((held, other) :: entries).lookup k = if k = held then some other else entries.lookup k := by
  by_cases h : k = held
  · rw [if_pos h, List.lookup_cons, beq_iff_eq.mpr h]
  · rw [if_neg h, List.lookup_cons, beq_eq_false_iff_ne.mpr h]

private theorem lookup_place (l : Language) (make : EmitterMaker)
    (entries : List (Language × EmitterMaker)) (k : Language) :
    (place l make entries).lookup k = if k = l then some make else entries.lookup k := by
  induction entries with
  | nil => exact lookup_entry k l make
  | cons first rest ih =>
    obtain ⟨held, other⟩ := first
    rw [place, lookup_entry k held]
    split
    · rename_i hheld
      subst hheld
      rw [lookup_entry]
      split <;> rfl
    · rename_i hheld
      split
      · rw [lookup_entry, lookup_entry]
      · rw [lookup_entry, ih]
        by_cases hk : k = held
        · rw [if_pos hk, if_neg (hk ▸ Ne.symm hheld), if_pos hk]
        · rw [if_neg hk, if_neg hk]

private theorem mem_place {e : Language × EmitterMaker} (h : e ∈ place l make entries) :
    e = (l, make) ∨ e ∈ entries := by
  induction entries with
  | nil => exact Or.inl (List.mem_singleton.mp h)
  | cons first rest ih =>
    obtain ⟨held, other⟩ := first
    rw [place] at h
    split at h
    · rcases List.mem_cons.mp h with hnew | hold
      · exact Or.inl hnew
      · exact Or.inr (List.mem_cons_of_mem _ hold)
    · split at h
      · exact List.mem_cons.mp h
      · rcases List.mem_cons.mp h with hfirst | hrest
        · exact Or.inr (hfirst ▸ List.mem_cons_self)
        · exact (ih hrest).imp_right (List.mem_cons_of_mem _)

/-- The entries stand in the order of their names, and each name but once. -/
def InOrder (entries : List (Language × EmitterMaker)) : Prop :=
  entries.Pairwise fun e e' => e.1.name < e'.1.name

private theorem name_trichotomy (l k : Language) : l = k ∨ l.name < k.name ∨ k.name < l.name := by
  cases l <;> cases k <;> decide

/-- Registering a maker leaves the languages in the order of their names, each once. -/
theorem InOrder.place (h : InOrder entries) (l : Language) (make : EmitterMaker) :
    InOrder (place l make entries) := by
  induction entries with
  | nil => exact List.pairwise_singleton _ _
  | cons first rest ih =>
    obtain ⟨held, other⟩ := first
    obtain ⟨hfirst, hrest⟩ := List.pairwise_cons.mp h
    rw [Registry.place]
    split
    · rename_i hheld
      subst hheld
      exact List.pairwise_cons.mpr ⟨hfirst, hrest⟩
    · rename_i hheld
      split
      · rename_i hbefore
        refine List.pairwise_cons.mpr ⟨fun e he => ?_, h⟩
        rcases List.mem_cons.mp he with rfl | hlater
        · exact hbefore
        · exact String.lt_trans hbefore (hfirst e hlater)
      · rename_i hnot
        have hafter : held.name < l.name := by
          rcases name_trichotomy l held with heq | hlt | hgt
          · exact absurd heq hheld
          · exact absurd hlt hnot
          · exact hgt
        refine List.pairwise_cons.mpr ⟨fun e he => ?_, ih hrest⟩
        rcases mem_place he with rfl | hold
        · exact hafter
        · exact hfirst e hold

/-- A language has the maker that is registered for it, whatever it had before. -/
theorem maker?_register (r : Registry) (l : Language) (make : EmitterMaker) (k : Language) :
    (r.register l make).maker? k = if k = l then some make else r.maker? k :=
  lookup_place l make r.entries k

/-- Registering a maker for one language changes nothing for the others. -/
theorem maker?_register_of_ne (r : Registry) (make : EmitterMaker) (h : k ≠ l) :
    (r.register l make).maker? k = r.maker? k := by
  rw [maker?_register, if_neg h]

/-- The languages of a registry are those with a maker. -/
theorem mem_languages_iff (r : Registry) (l : Language) :
    l ∈ r.languages ↔ (r.maker? l).isSome = true := by
  rw [maker?, List.lookup_isSome_iff, languages, List.mem_map]
  exact exists_congr fun e => and_congr_right fun _ => by rw [beq_iff_eq, eq_comm]

/-- A registry resolves the names of the languages that it has a maker for. -/
theorem resolve?_eq_some_iff (r : Registry) (asked : String) (l : Language) :
    r.resolve? asked = some l ↔ Language.ofName? asked = some l ∧ l ∈ r.languages := by
  rw [mem_languages_iff, resolve?, Option.filter_eq_some_iff]

/-- What is made for a service comes from the maker of the language that is asked for. -/
theorem create?_eq_some_iff (r : Registry) (asked service : String) (e : Emitter) :
    r.create? asked service = some e ↔
      ∃ l make, Language.ofName? asked = some l ∧ r.maker? l = some make ∧ make service = e := by
  simp [create?, Option.bind_eq_some_iff]

/-- Asking for an emitter succeeds exactly where the language is resolved. -/
theorem create_eq_ok_iff (r : Registry) (asked service : String) (e : Emitter) :
    r.create asked service = .ok e ↔
      ∃ l make, r.resolve? asked = some l ∧ r.maker? l = some make ∧ make service = e := by
  have hcreate : r.create asked service = .ok e ↔ r.create? asked service = some e := by
    unfold create
    cases r.create? asked service <;> simp
  rw [hcreate, create?_eq_some_iff]
  refine exists_congr fun l => exists_congr fun make => ⟨fun h => ⟨?_, h.2⟩, fun h => ⟨?_, h.2⟩⟩
  · exact (r.resolve?_eq_some_iff asked l).mpr ⟨h.1, (r.mem_languages_iff l).mpr (by simp [h.2.1])⟩
  · exact ((r.resolve?_eq_some_iff asked l).mp h.1).1

/-- Asking for an emitter fails in one way alone, which names what is supported. -/
theorem create_eq_error_iff (r : Registry) (asked service : String) (stop : RunError) :
    r.create asked service = .error stop ↔
      r.resolve? asked = none ∧ stop = .unsupported asked r.names := by
  rw [← r.create?_eq_none_iff asked service, create]
  cases r.create? asked service <;> simp [eq_comm]

/-- What is registered for one language is not seen by those who ask for another. -/
theorem register_of_ofName?_ne (r : Registry) (make : EmitterMaker) {asked : String}
    (h : Language.ofName? asked ≠ some l) :
    (r.register l make).resolve? asked = r.resolve? asked ∧
      ∀ service, (r.register l make).create? asked service = r.create? asked service := by
  unfold resolve? create?
  cases hasked : Language.ofName? asked with
  | none => exact ⟨rfl, fun _ => rfl⟩
  | some k =>
    have hne : k ≠ l := fun heq => h (heq ▸ hasked)
    have hsame := r.maker?_register_of_ne make hne
    exact ⟨by simp only [Option.filter, hsame], fun service => by simp [hsame]⟩

end Registry

namespace Run

open Sandbox (bind_apply)

variable {σ : Type} {h : Host (StateM σ)} {o : Options} {s s' : σ} {stop : RunError}

/-- A schema text is missing for one reason alone. -/
theorem unusableSchema_of_readSchemaText {p : Path}
    (hread : readSchemaText h p s = (.error stop, s')) :
    ∃ cause, stop = .unusableSchema p cause := by
  unfold readSchemaText at hread
  cases hfile : h.isFile p s with
  | mk found s₁ =>
    rw [bind_apply hfile] at hread
    cases found with
    | false => exact ⟨_, (Except.error.inj (Prod.mk.inj hread).1).symm⟩
    | true =>
      cases htext : h.readText p s₁ with
      | mk text s₂ =>
        rw [if_pos rfl, bind_apply htext] at hread
        cases text with
        | ok text => cases (Prod.mk.inj hread).1
        | error fault => exact ⟨_, (Except.error.inj (Prod.mk.inj hread).1).symm⟩

/-- A run is refused exactly when the registry resolves no language for it, and then nothing is
    done. -/
theorem generateWith_unsupported_iff (h : Host (StateM σ)) (registry : Registry) (o : Options)
    (s : σ) (asked : String) (supported : List String) (s' : σ) :
    generateWith h registry o s = (.error (.unsupported asked supported), s') ↔
      registry.resolve? o.language = none ∧ asked = o.language ∧ supported = registry.names ∧
        s' = s := by
  unfold generateWith
  cases hcreate : registry.create o.language o.service with
  | error stop =>
    obtain ⟨hnone, rfl⟩ := (registry.create_eq_error_iff _ _ _).mp hcreate
    constructor
    · intro hrun
      obtain ⟨hstop, rfl⟩ := Prod.mk.inj hrun
      obtain ⟨rfl, rfl⟩ := RunError.unsupported.inj (Except.error.inj hstop)
      exact ⟨hnone, rfl, rfl, rfl⟩
    · rintro ⟨-, rfl, rfl, rfl⟩
      rfl
  | ok e =>
    obtain ⟨l, _, hresolve, -⟩ := (registry.create_eq_ok_iff _ _ _).mp hcreate
    constructor
    · intro hrun
      cases hread : readSchemaText h o.schema s with
      | mk read s₁ =>
        simp only [bind_apply hread] at hrun
        cases read with
        | error stop =>
          obtain ⟨cause, rfl⟩ := unusableSchema_of_readSchemaText hread
          cases (Prod.mk.inj hrun).1
        | ok text => rcases stop_of_processTables hrun with ⟨_, h⟩ | ⟨_, _, _, h⟩ | ⟨_, _, h⟩ <;> cases h
    · rintro ⟨hnone, -⟩
      rw [hresolve] at hnone
      cases hnone

end Run

namespace Registry

/-- Makers in the order in which they were registered, each for a language. -/
abbrev History := List (Language × EmitterMaker)

/-- The registry after further registrations. -/
def after (r : Registry) (history : History) : Registry :=
  history.foldl (fun r e => r.register e.1 e.2) r

/-- The maker that was registered for a language last. -/
def latest? (history : History) (l : Language) : Option EmitterMaker := history.reverse.lookup l

/-- The registrations behind the built-in registry. -/
def builtInHistory : History := Language.all.map fun l => (l, Emitter.builtIn l)

private theorem builtIn_eq_after : builtIn = empty.after builtInHistory := rfl

/-- Histories are carried out one after the other. -/
theorem after_append (r : Registry) (early late : History) :
    r.after (early ++ late) = (r.after early).after late := List.foldl_append

private theorem latest?_cons (e : Language × EmitterMaker) (history : History) (l : Language) :
    latest? (e :: history) l = (latest? history l).or (if l = e.1 then some e.2 else none) := by
  rw [latest?, List.reverse_cons, List.lookup_append]
  exact congrArg _ (lookup_entry l e.1 e.2)

private theorem latest?_isSome_iff (history : History) (l : Language) :
    (latest? history l).isSome = true ↔ ∃ make, (l, make) ∈ history := by
  simp [latest?, List.lookup_isSome_iff]

/-- After a history a language has its latest maker, or the one that it had before. -/
theorem maker?_after (r : Registry) (history : History) (l : Language) :
    (r.after history).maker? l = (latest? history l).or (r.maker? l) := by
  induction history generalizing r with
  | nil => rfl
  | cons e history ih =>
    have hstep : (r.after (e :: history)) = (r.register e.1 e.2).after history := rfl
    rw [hstep, ih, maker?_register, latest?_cons]
    cases latest? history l with
    | some make => rfl
    | none => by_cases h : l = e.1 <;> simp [h]

/-- No history brings the languages out of order. -/
theorem inOrder_after {r : Registry} (h : InOrder r.entries) (history : History) :
    InOrder (r.after history).entries := by
  induction history generalizing r with
  | nil => exact h
  | cons e history ih => exact ih (InOrder.place h e.1 e.2)

/-- The registry is what a history of registrations has left: it knows the languages of the history
    and no others, in the order of their names, and asks the latest maker of a language for its
    emitter. -/
structure IsLeftBy (r : Registry) (history : History) : Prop where
  sorted : r.names.Pairwise (· < ·)
  names : r.names = r.languages.map (·.name)
  languages : ∀ l, l ∈ r.languages ↔ ∃ make, (l, make) ∈ history
  resolves : ∀ asked l,
    r.resolve? asked = some l ↔ Language.ofName? asked = some l ∧ ∃ make, (l, make) ∈ history
  creates : ∀ asked service e, r.create asked service = .ok e ↔
    ∃ l make, r.resolve? asked = some l ∧ latest? history l = some make ∧ make service = e
  refuses : ∀ asked service stop, r.create asked service = .error stop ↔
    r.resolve? asked = none ∧ stop = .unsupported asked r.names
  /-- One more registration is seen by those alone who ask for its language. -/
  apart : ∀ l make,
    (∀ k, k ≠ l → (r.register l make).maker? k = r.maker? k) ∧
      ∀ asked, Language.ofName? asked ≠ some l →
        (r.register l make).resolve? asked = r.resolve? asked ∧
          ∀ service, (r.register l make).create? asked service = r.create? asked service
  /-- On every host a run is refused exactly when its language does not resolve. -/
  accepts : ∀ (σ : Type) (h : Host (StateM σ)) (o : Options) (s s' : σ) asked supported,
    (Run.generateWith h r o).run s = (.error (.unsupported asked supported), s') ↔
      r.resolve? o.language = none ∧ asked = o.language ∧ supported = r.names ∧ s' = s

/-- From the empty registry every history leaves each language with the maker that was registered
    for it last, and nothing else. -/
theorem isLeftBy_after (history : History) : (empty.after history).IsLeftBy history := by
  have hmaker (l : Language) : (empty.after history).maker? l = latest? history l := by
    rw [maker?_after]
    exact Option.or_none
  have hlanguages (l : Language) :
      l ∈ (empty.after history).languages ↔ ∃ make, (l, make) ∈ history := by
    rw [mem_languages_iff, hmaker, latest?_isSome_iff]
  have horder : InOrder (empty.after history).entries := inOrder_after List.Pairwise.nil history
  refine ⟨?_, rfl, hlanguages, fun asked l => ?_, fun asked service e => ?_,
    fun asked service stop => create_eq_error_iff _ asked service stop,
    fun l make => ⟨fun k hne => maker?_register_of_ne _ make hne,
      fun asked hasked => register_of_ofName?_ne _ make hasked⟩,
    fun σ h o s s' asked supported => Run.generateWith_unsupported_iff h _ o s asked supported s'⟩
  · rw [Registry.names, Registry.languages, List.map_map]
    exact List.pairwise_map.mpr horder
  · rw [resolve?_eq_some_iff, hlanguages]
  · simp only [create_eq_ok_iff, hmaker]

/-- From the empty registry or from the built-in one, every history of registrations leaves what it
    says: the last registration of a language counts, and no other language notices it. -/
theorem after_isLeftBy_history (history : History) :
    (empty.after history).IsLeftBy history ∧
      (builtIn.after history).IsLeftBy (builtInHistory ++ history) := by
  refine ⟨isLeftBy_after history, ?_⟩
  rw [builtIn_eq_after, ← after_append]
  exact isLeftBy_after (builtInHistory ++ history)

end Registry

end AccessLayer
