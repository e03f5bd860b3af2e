import RoutineBindings.Wrapper.Resolved

/-!
# What a resolution depends on

The Go type of a database type follows from the caller's tables and the catalog alone; what
was gathered before changes nothing about it. So a routine resolves to the same wrapper
wherever it stands among the routines of a file.
-/
namespace RoutineBindings
open Go

namespace Overrides

/-- The Go type that one of the two tables gives for the base of a type. -/
def hostType? (o : Overrides) (text : String) : Option String :=
  (o.types.get? (Descriptor.ofText text).base).or (builtinType? (Descriptor.ofText text).base)

end Overrides

/-- What the base of a type resolves to when nothing has been gathered yet. -/
def resolvedBase (o : Overrides) (c : Catalog) (text : String) : ResolvedType :=
  (resolveBase o c (Descriptor.ofText text) .empty).value.1

/-- The Go type that a type resolves to. -/
def goTypeOf (o : Overrides) (c : Catalog) (text : String) : String :=
  (Descriptor.ofText text).wrap (resolvedBase o c text).goType

theorem register_fst (e : Enum) (r s : EnumRegistry) : (r.register e).1 = (s.register e).1 := by
  by_cases h : e.labels.isEmpty <;> simp [EnumRegistry.register, h]

theorem resolveByCatalog_fst (c : Catalog) (d : Descriptor) (n m : Needs) :
    (resolveByCatalog c d n).value.1 = (resolveByCatalog c d m).value.1 := by
  simp only [resolveByCatalog, Journaled.value_bind]
  cases (lookupEnum c d).value with
  | empty => rfl
  | failed e => rfl
  | found labels =>
    have h := register_fst ⟨d.base, labels⟩ n.enums m.enums
    rcases hn : n.enums.register ⟨d.base, labels⟩ with ⟨g, rn⟩
    rcases hm : m.enums.register ⟨d.base, labels⟩ with ⟨g', rm⟩
    rw [hn, hm] at h
    cases h
    cases g <;> simp [hn, hm]

theorem resolveBase_fst (o : Overrides) (c : Catalog) (d : Descriptor) (n m : Needs) :
    (resolveBase o c d n).value.1 = (resolveBase o c d m).value.1 := by
  unfold resolveBase
  split
  · rfl
  · split
    · rfl
    · exact resolveByCatalog_fst c d n m

theorem resolveType_fst (o : Overrides) (c : Catalog) (text : String) (n : Needs) :
    (resolveType o c text n).value.1 =
      { resolvedBase o c text with goType := goTypeOf o c text } := by
  have h := resolveBase_fst o c (Descriptor.ofText text) n .empty
  simp only [resolveType, Journaled.value_bind, Journaled.value_pure, h]
  rfl

theorem resolvedBase_of_hostType {o : Overrides} (c : Catalog) {text h : String}
    (hh : o.hostType? text = some h) :
    ∃ s, (s = .override ∨ s = .builtin) ∧ resolvedBase o c text = ⟨h, s⟩ := by
  unfold Overrides.hostType? at hh
  unfold resolvedBase resolveBase
  cases ho : o.types.get? (Descriptor.ofText text).base with
  | some type =>
    simp only [ho, Option.some_or, Option.some.injEq] at hh
    exact ⟨.override, .inl rfl, by simp [hh]⟩
  | none =>
    simp only [ho, Option.none_or] at hh
    exact ⟨.builtin, .inr rfl, by simp [hh]⟩

theorem resolveByCatalog_strategy (c : Catalog) (d : Descriptor) (n : Needs) :
    (resolveByCatalog c d n).value.1.strategy = .catalogEnum ∨
      (resolveByCatalog c d n).value.1.strategy = .passthrough := by
  simp only [resolveByCatalog, Journaled.value_bind]
  cases (lookupEnum c d).value with
  | empty => exact .inr rfl
  | failed e => exact .inr rfl
  | found labels =>
    dsimp only
    rcases n.enums.register ⟨d.base, labels⟩ with ⟨g, enums⟩
    cases g with
    | none => exact .inr rfl
    | some goName => exact .inl rfl

/-- The two tables decide exactly the types that resolve by them. -/
theorem hostType_iff {o : Overrides} {c : Catalog} {text h : String} :
    o.hostType? text = some h ↔
      ∃ s, (s = .override ∨ s = .builtin) ∧ resolvedBase o c text = ⟨h, s⟩ := by
  constructor
  · exact resolvedBase_of_hostType c
  · rintro ⟨s, hs, hb⟩
    cases ho : o.hostType? text with
    | some type =>
      obtain ⟨s', -, hb'⟩ := resolvedBase_of_hostType c ho
      exact congrArg some (ResolvedType.mk.inj (hb'.symm.trans hb)).1
    | none =>
      obtain ⟨hn, hn'⟩ := Option.or_eq_none_iff.1 ho
      have hd := resolveByCatalog_strategy c (Descriptor.ofText text) .empty
      have hr : resolvedBase o c text =
          (resolveByCatalog c (Descriptor.ofText text) .empty).value.1 := by
        simp [resolvedBase, resolveBase, hn, hn']
      rw [← hr, hb] at hd
      rcases hs with rfl | rfl <;> simp at hd

/-- What an argument becomes in the wrapper. -/
def resolvedArgument (o : Overrides) (c : Catalog) (a : Argument) : ResolvedArgument :=
  { name := a.name, goName := parameterName a.name, exportedName := exportedName a.name,
    goType := goTypeOf o c a.type }

/-- How the result of a routine is read. -/
def resolvedResult (o : Overrides) (c : Catalog) (r : Routine) : ResultShape :=
  if r.hasResult then
    .ofResolved r.result { resolvedBase o c r.result with goType := goTypeOf o c r.result }
  else .none

/-- What a routine resolves to. -/
def resolvedRoutine (o : Overrides) (c : Catalog) (r : Routine) : ResolvedRoutine :=
  { routine := r, arguments := r.arguments.map (resolvedArgument o c)
    result := resolvedResult o c r }

theorem resolveArgument_fst (o : Overrides) (c : Catalog) (a : Argument) (n : Needs) :
    (resolveArgument o c a n).value.1 = resolvedArgument o c a := by
  simp [resolveArgument, resolvedArgument, resolveType_fst]

theorem resolveArguments_fst (o : Overrides) (c : Catalog) (as : List Argument) (n : Needs) :
    (resolveArguments o c as n).value.1 = as.map (resolvedArgument o c) := by
  induction as generalizing n with
  | nil => rfl
  | cons a as ih =>
    simp only [resolveArguments, Journaled.value_bind, Journaled.value_pure, List.map_cons]
    rw [resolveArgument_fst, ih]

theorem resolveResult_fst (o : Overrides) (c : Catalog) (r : Routine) (n : Needs) :
    (resolveResult o c r n).value.1 = resolvedResult o c r := by
  unfold resolveResult resolvedResult
  split
  · simp [resolveType_fst]
  · rfl

/-- A routine resolves to the same wrapper whatever was gathered before. -/
theorem resolveRoutine_fst (o : Overrides) (c : Catalog) (r : Routine) (n : Needs) :
    (resolveRoutine o c r n).value.1 = resolvedRoutine o c r := by
  simp only [resolveRoutine, Journaled.value_bind, Journaled.value_pure, resolvedRoutine]
  rw [resolveArguments_fst, resolveResult_fst]

end RoutineBindings
