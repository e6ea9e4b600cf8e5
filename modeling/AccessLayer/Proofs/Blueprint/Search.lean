import AccessLayer.Proofs.Blueprint.Parameters
import Mathlib.Order.Bounds.Basic

namespace AccessLayer

namespace Blueprint

/-- From a name the search comes to a result: a name that some column has gets one more underscore,
    and one that no column has is the result. -/
inductive Search (fields : List Field) : String → String → Prop
  | kept {name : String} (hfree : ∀ f ∈ fields, f.column ≠ name) : Search fields name name
  | lengthened {name result : String} (htaken : ∃ f ∈ fields, f.column = name)
      (hrest : Search fields (name.push '_') result) : Search fields name result

/-- The first name that is tried. -/
theorem paramName_zero : paramName 0 = "entity_id" := by decide

/-- Each name that is tried is longer than the one before it by an underscore. -/
theorem paramName_succ (n : Nat) : paramName (n + 1) = (paramName n).push '_' := by
  have hlonger : String.ofList (List.replicate (n + 1) '_') =
      (String.ofList (List.replicate n '_')).push '_' := by
    simp [← String.toList_inj, List.replicate_succ']
  rw [paramName, paramName, hlonger, ← String.toList_inj, String.toList_push, String.toList_append,
    String.toList_push, String.toList_append, List.append_assoc]

/-- The search comes to one result at most. -/
theorem Search.unique {fields : List Field} {name result result' : String}
    (h : Search fields name result) (h' : Search fields name result') : result = result' := by
  induction h with
  | kept hfree =>
    cases h' with
    | kept => rfl
    | lengthened htaken _ =>
      obtain ⟨f, hf, hname⟩ := htaken
      exact absurd hname (hfree f hf)
  | lengthened htaken _ ih =>
    cases h' with
    | kept hfree =>
      obtain ⟨f, hf, hname⟩ := htaken
      exact absurd hname (hfree f hf)
    | lengthened _ hrest' => exact ih hrest'

/-- From a name that is tried on the way to a free one, the search comes to the free one. -/
theorem search_of_taken {fields : List Field} {start count : Nat}
    (htaken : ∀ n < start + count, start ≤ n → ∃ f ∈ fields, f.column = paramName n)
    (hfree : ∀ f ∈ fields, f.column ≠ paramName (start + count)) :
    Search fields (paramName start) (paramName (start + count)) := by
  induction count generalizing start with
  | zero => exact .kept hfree
  | succ count ih =>
    have hnext : start + 1 + count = start + (count + 1) := by omega
    rw [← hnext] at htaken hfree ⊢
    have hhere := htaken start (by omega) (Nat.le_refl start)
    have hrest : Search fields (paramName (start + 1)) (paramName (start + 1 + count)) :=
      ih (fun n hn hle => htaken n hn (by omega)) hfree
    rw [paramName_succ start] at hrest
    exact .lengthened hhere hrest

/-- Among the names in their order there is a first that no column has, and before it there are no
    more names than columns. -/
theorem exists_first_free (fields : List Field) :
    ∃ k ≤ fields.length, IsLeast {n | ∀ f ∈ fields, f.column ≠ paramName n} k ∧
      keyParam (fields.map (·.column)) = paramName k := by
  have hfree_iff (n : Nat) : (!(fields.map (·.column)).contains (paramName n)) = true ↔
      ∀ f ∈ fields, f.column ≠ paramName n := by
    rw [Bool.not_eq_true', List.contains_eq_mem, decide_eq_false_iff_not, List.mem_map]
    exact ⟨fun hnone f hf hname => hnone ⟨f, hf, hname⟩,
      fun hfree ⟨f, hf, hname⟩ => hfree f hf hname⟩
  obtain ⟨n, hn, hfree⟩ := exists_free (fields.map (·.column))
  have hsome : ((List.range ((fields.map (·.column)).length + 1)).find? fun n =>
      !(fields.map (·.column)).contains (paramName n)).isSome = true := by
    rw [List.find?_isSome]
    exact ⟨n, List.mem_range.mpr hn, by simpa [-List.contains_map] using hfree⟩
  obtain ⟨k, hk⟩ := Option.isSome_iff_exists.mp hsome
  obtain ⟨hkfree, hkrange, hbefore⟩ := List.find?_range_eq_some.mp hk
  rw [List.length_map] at hkrange
  refine ⟨k, by simpa [Nat.lt_succ_iff] using hkrange, ⟨(hfree_iff k).mp hkfree, ?_⟩, ?_⟩
  · intro m hm
    by_contra hlt
    have htaken := hbefore m (by omega)
    rw [(hfree_iff m).mpr hm] at htaken
    exact absurd htaken (by decide)
  · rw [keyParam, hk, Option.getD_some]

/-- The search for the key's parameter always comes to an end, with the shortest of the names that
    is no column's: the preferred one with no more underscores than there are fields. -/
theorem search_ends_at_first_free (fields : List Field) :
    ∃ k ≤ fields.length, IsLeast {n | ∀ f ∈ fields, f.column ≠ paramName n} k ∧
      keyParam (fields.map (·.column)) = "entity_id" ++ String.ofList (List.replicate k '_') ∧
      ∀ result, Search fields "entity_id" result ↔ result = keyParam (fields.map (·.column)) := by
  obtain ⟨k, hle, hleast, hparam⟩ := exists_first_free fields
  have htaken (n : Nat) (hn : n < 0 + k) (_ : 0 ≤ n) : ∃ f ∈ fields, f.column = paramName n := by
    by_contra hnone
    have hfree : ∀ f ∈ fields, f.column ≠ paramName n := fun f hf hname => hnone ⟨f, hf, hname⟩
    have := hleast.2 hfree
    omega
  have hends := search_of_taken htaken (by simpa using hleast.1)
  rw [Nat.zero_add, paramName_zero] at hends
  refine ⟨k, hle, hleast, hparam, fun result => ⟨fun hresult => ?_, ?_⟩⟩
  · rw [hparam]
    exact hresult.unique hends
  · rintro rfl
    rw [hparam]
    exact hends

end Blueprint

end AccessLayer
