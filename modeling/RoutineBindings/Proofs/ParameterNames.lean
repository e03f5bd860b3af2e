import RoutineBindings.Proofs.DeclarationRules
import RoutineBindings.Proofs.NameCapture

/-!
# Names of parameters

The parameters of a wrapper share one scope with its connection and its results. The ending `Arg`
keeps a parameter off the names of these, but not off another parameter: two arguments can have the
same name in camel case, and the ending itself can give the name that another argument has.
-/
namespace RoutineBindings.Go

/-- The name is that of a variable of wrappers or a keyword, so no parameter has it. -/
def Taken (name : String) : Prop := name ∈ wrapperLocals ∨ name ∈ keywords

instance : DecidablePred Taken :=
  fun name => inferInstanceAs (Decidable (name ∈ wrapperLocals ∨ name ∈ keywords))

/-- Two database names for which there is only one parameter. -/
inductive Clash (x y : String) : Prop where
  | sameName (h : unexportedName x = unexportedName y)
  | leftEnding (h : Taken (unexportedName x)) (hy : unexportedName y = unexportedName x ++ "Arg")
  | rightEnding (h : Taken (unexportedName y)) (hx : unexportedName x = unexportedName y ++ "Arg")

section Parameters
variable {x y name : String}

theorem parameterName_of_taken (h : Taken (unexportedName x)) :
    parameterName x = unexportedName x ++ "Arg" := by
  have hcond : (wrapperLocals.contains (unexportedName x) ||
      keywords.contains (unexportedName x)) = true := by
    simpa [Taken] using h
  rw [parameterName, if_pos hcond]

theorem parameterName_of_not_taken (h : ¬ Taken (unexportedName x)) :
    parameterName x = unexportedName x := by
  have hcond : ¬ (wrapperLocals.contains (unexportedName x) ||
      keywords.contains (unexportedName x)) = true := by
    simpa [Taken] using h
  rw [parameterName, if_neg hcond]

/-- One ending is enough. -/
theorem not_taken_ending (h : Taken name) : ¬ Taken (name ++ "Arg") := by
  have hall : ∀ n ∈ wrapperLocals ++ keywords, ¬ Taken (n ++ "Arg") := by decide
  exact hall name (List.mem_append.2 h)

theorem parameterName_of_ending (hx : Taken (unexportedName x))
    (hy : unexportedName y = unexportedName x ++ "Arg") : parameterName x = parameterName y := by
  have hfree : ¬ Taken (unexportedName y) := hy ▸ not_taken_ending hx
  rw [parameterName_of_taken hx, parameterName_of_not_taken hfree, hy]

theorem parameterName_eq_iff : parameterName x = parameterName y ↔ Clash x y := by
  constructor
  · intro h
    by_cases hx : Taken (unexportedName x) <;> by_cases hy : Taken (unexportedName y)
    · rw [parameterName_of_taken hx, parameterName_of_taken hy] at h
      exact .sameName ((String.append_left_inj _).1 h)
    · rw [parameterName_of_taken hx, parameterName_of_not_taken hy] at h
      exact .leftEnding hx h.symm
    · rw [parameterName_of_not_taken hx, parameterName_of_taken hy] at h
      exact .rightEnding hy h
    · rw [parameterName_of_not_taken hx, parameterName_of_not_taken hy] at h
      exact .sameName h
  · rintro (h | ⟨hx, hy⟩ | ⟨hy, hx⟩)
    · rw [parameterName, parameterName, h]
    · exact parameterName_of_ending hx hy
    · exact (parameterName_of_ending hy hx).symm

end Parameters
end RoutineBindings.Go

namespace RoutineBindings.Wrapper
open Go

/-- The connection and the results keep off the arguments, so only these can have a name twice. -/
theorem entry_nodup_iff {w : WrapperOptions} {r : ResolvedRoutine}
    (ha : ∀ a ∈ r.arguments, a.goName ∉ wrapperLocals) :
    (entry w r).Nodup ↔ (r.arguments.map ResolvedArgument.goName).Nodup := by
  refine ⟨fun h => ?_, fun h => entry_nodup h ha⟩
  rw [entry_eq] at h
  exact (List.nodup_append.1 (List.nodup_append.1 h).1).2.1

/-- The names that a wrapper declares at its outermost level differ exactly if no two names of its
arguments clash. -/
theorem outerNames_nodup_iff (o : Overrides) (c : Catalog) (r : Routine) (n : Needs)
    (w : WrapperOptions) :
    (funcDecl w (resolveRoutine o c r n).value.1).names.Nodup ↔
      r.arguments.Pairwise fun a b => ¬ Clash a.name b.name := by
  have hnames : (resolvedRoutine o c r).arguments.map ResolvedArgument.goName =
      r.arguments.map fun a => parameterName a.name := by
    simp [resolvedRoutine, resolvedArgument, Function.comp_def]
  rw [resolveRoutine_fst]
  calc (funcDecl w (resolvedRoutine o c r)).names.Nodup
    _ ↔ ((resolvedRoutine o c r).arguments.map ResolvedArgument.goName).Nodup :=
        entry_nodup_iff (resolvedRoutine_sound o c r).apart
    _ ↔ r.arguments.Pairwise fun a b => parameterName a.name ≠ parameterName b.name := by
        rw [hnames, List.Nodup, List.pairwise_map]
    _ ↔ r.arguments.Pairwise fun a b => ¬ Clash a.name b.name := by
        simp only [ne_eq, parameterName_eq_iff]

/-- A routine one of whose arguments has the name that the ending gives to the other. -/
def retryJob : Routine :=
  ⟨"public", "retry_job", .normal, [⟨"err", "text"⟩, ⟨"err_arg", "text"⟩], "", none⟩

theorem retryJob_names_clash :
    (retryJob.arguments.map Argument.name).Nodup ∧
      (funcDecl inlineOptions
        (resolveRoutine ⟨[], []⟩ emptyCatalog retryJob .empty).value.1).names =
          ["errArg", "errArg"] ∧
      ¬ (funcDecl inlineOptions
        (resolveRoutine ⟨[], []⟩ emptyCatalog retryJob .empty).value.1).names.Nodup := by
  have hnames : (funcDecl inlineOptions
      (resolveRoutine ⟨[], []⟩ emptyCatalog retryJob .empty).value.1).names =
        ["errArg", "errArg"] := by
    decide +kernel
  refine ⟨by decide, hnames, ?_⟩
  rw [hnames]
  decide

end RoutineBindings.Wrapper
