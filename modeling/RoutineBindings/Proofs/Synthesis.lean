import Mathlib.Data.List.Forall2
import RoutineBindings.Generation
import RoutineBindings.Proofs.Outcomes

/-!
# What a synthesis depends on

A synthesis fails exactly when nothing is requested or a requested routine cannot be found, and
the error is that of the first such routine. Otherwise it is the file of the wrappers of all
routines that were found.
-/
namespace RoutineBindings

/-- The catalog has the routine under the name it is requested with. -/
def Found (c : Catalog) (name : String) (r : Routine) : Prop := (introspect c name).value = .ok r

/-- The first of the names that cannot be introspected fails with the error. -/
def FirstFailure (c : Catalog) (names : List String) (e : IntrospectionError) : Prop :=
  ∃ before name after, names = before ++ name :: after ∧
    (∀ x ∈ before, ∃ r, Found c x r) ∧ (introspect c name).value = .error e

theorem introspectAll_value (c : Catalog) (names : List String) :
    (introspectAll c names).value = names.mapM fun name => (introspect c name).value := by
  induction names with
  | nil => rfl
  | cons name names ih =>
    rw [List.mapM_cons, ← ih, introspectAll, Journaled.value_bind]
    cases (introspect c name).value with
    | error e => rfl
    | ok r =>
      simp only [Journaled.value_bind]
      cases (introspectAll c names).value <;> rfl

theorem introspectAll_eq_ok {c : Catalog} {names : List String} {rs : List Routine} :
    (introspectAll c names).value = .ok rs ↔ List.Forall₂ (Found c) names rs := by
  rw [introspectAll_value, mapM_eq_ok]
  rfl

theorem introspectAll_eq_error {c : Catalog} {names : List String} {e : IntrospectionError} :
    (introspectAll c names).value = .error e ↔ FirstFailure c names e := by
  rw [introspectAll_value, mapM_eq_error]
  rfl

theorem found_of_mem {c : Catalog} {names : List String} {rs : List Routine}
    (h : List.Forall₂ (Found c) names rs) {name : String} (hmem : name ∈ names) :
    ∃ r ∈ rs, Found c name r := by
  induction h with
  | nil => simp at hmem
  | cons hr hrest ih =>
    rcases List.mem_cons.1 hmem with rfl | hmem
    · exact ⟨_, by simp, hr⟩
    · obtain ⟨r, hin, hfound⟩ := ih hmem
      exact ⟨r, by simp [hin], hfound⟩

theorem Found.unique {c : Catalog} {name : String} {r r' : Routine} (h : Found c name r)
    (h' : Found c name r') : r = r' := Except.ok.inj (h.symm.trans h')

theorem mem_found_iff {c : Catalog} {names : List String} {rs : List Routine}
    (h : List.Forall₂ (Found c) names rs) {r : Routine} :
    r ∈ rs ↔ ∃ name ∈ names, Found c name r := by
  constructor
  · intro hr
    induction h with
    | nil => exact absurd hr List.not_mem_nil
    | @cons name r' names rs hname _ ih =>
      rcases List.mem_cons.1 hr with rfl | hr
      · exact ⟨name, List.mem_cons_self, hname⟩
      · obtain ⟨name', hmem, hfound⟩ := ih hr
        exact ⟨name', List.mem_cons_of_mem name hmem, hfound⟩
  · rintro ⟨name, hmem, hname⟩
    obtain ⟨r', hr', hfound⟩ := found_of_mem h hmem
    exact hname.unique hfound ▸ hr'

/-- Any name that fails makes the list fail, wherever it stands. -/
theorem exists_firstFailure_iff {c : Catalog} {names : List String} :
    (∃ e, FirstFailure c names e) ↔ ∃ name ∈ names, ∃ e, (introspect c name).value = .error e :=
  exists_firstError_iff

/-- A synthesis for the request fails with the error. -/
inductive SynthesisFails (c : Catalog) (q : GenerationRequest) : GenerateError → Prop where
  | noRoutines (h : q.routines = []) : SynthesisFails c q .noRoutines
  | introspection {e} (h : FirstFailure c q.routines e) : SynthesisFails c q (.introspection e)

theorem exists_synthesisFails_iff {c : Catalog} {q : GenerationRequest} :
    (∃ e, SynthesisFails c q e) ↔
      q.routines = [] ∨ ∃ name ∈ q.routines, ∃ e, (introspect c name).value = .error e := by
  rw [← exists_firstFailure_iff]
  constructor
  · rintro ⟨e, hq | hf⟩
    · exact .inl hq
    · exact .inr ⟨_, hf⟩
  · rintro (hq | ⟨e, hf⟩)
    · exact ⟨_, .noRoutines hq⟩
    · exact ⟨_, .introspection hf⟩

/-- The synthesis that the found routines give. -/
def synthesisOf (c : Catalog) (q : GenerationRequest) (rs : List Routine) : Synthesis :=
  let made := (addWrappers q.overrides c rs (.new q.options) .empty).value
  { functions := rs.map Routine.goName
    enumCount := made.2.enums.size
    source := made.1.render made.2 }

theorem synthesize_value (c : Catalog) (q : GenerationRequest) :
    (synthesize c q).value =
      if q.routines = [] then .error .noRoutines
      else ((introspectAll c q.routines).value.mapError .introspection).map (synthesisOf c q) := by
  unfold synthesize
  by_cases h : q.routines = []
  · simp [h]
  · simp only [List.isEmpty_iff, h, if_false, Journaled.value_bind]
    cases (introspectAll c q.routines).value <;> rfl

theorem synthesize_eq_error {c : Catalog} {q : GenerationRequest} {e : GenerateError} :
    (synthesize c q).value = .error e ↔ SynthesisFails c q e := by
  rw [synthesize_value]
  constructor
  · intro h
    by_cases hq : q.routines = []
    · rw [if_pos hq] at h
      cases h
      exact .noRoutines hq
    · rw [if_neg hq] at h
      cases hs : (introspectAll c q.routines).value with
      | error e' =>
        rw [hs] at h
        cases h
        exact .introspection (introspectAll_eq_error.1 hs)
      | ok rs => rw [hs] at h; cases h
  · rintro (hq | hf)
    · rw [if_pos hq]
    · have hq : q.routines ≠ [] := by
        obtain ⟨before, name, after, hsplit, -⟩ := hf
        simp [hsplit]
      rw [if_neg hq, introspectAll_eq_error.2 hf]
      rfl

theorem synthesize_eq_ok {c : Catalog} {q : GenerationRequest} {s : Synthesis} :
    (synthesize c q).value = .ok s ↔
      q.routines ≠ [] ∧ ∃ rs, List.Forall₂ (Found c) q.routines rs ∧ s = synthesisOf c q rs := by
  rw [synthesize_value]
  constructor
  · intro h
    by_cases hq : q.routines = []
    · rw [if_pos hq] at h
      cases h
    · rw [if_neg hq] at h
      cases hs : (introspectAll c q.routines).value with
      | error e => rw [hs] at h; cases h
      | ok rs =>
        rw [hs] at h
        cases h
        exact ⟨hq, rs, introspectAll_eq_ok.1 hs, rfl⟩
  · rintro ⟨hq, rs, hfound, rfl⟩
    rw [if_neg hq, introspectAll_eq_ok.2 hfound]
    rfl

end RoutineBindings
