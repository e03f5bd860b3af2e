import RoutineBindings.Generation
import RoutineBindings.Proofs.Resolution

/-!
# What a file gathers

Types and wrappers require imports, types register enums. What has been gathered in the end are
two lists that follow from the routines, required and registered from first to last.
-/
namespace RoutineBindings
open Go

namespace Go

@[simp] theorem ImportSet.requireAll_nil (s : ImportSet) : s.requireAll [] = s := rfl

theorem ImportSet.requireAll_append (s : ImportSet) (ps qs : List String) :
    s.requireAll (ps ++ qs) = (s.requireAll ps).requireAll qs := List.foldl_append

/-- Registers enums one after the other. -/
def EnumRegistry.registerAll (r : EnumRegistry) (es : List Enum) : EnumRegistry :=
  es.foldl (fun r e => (r.register e).2) r

@[simp] theorem EnumRegistry.registerAll_nil (r : EnumRegistry) : r.registerAll [] = r := rfl

theorem EnumRegistry.registerAll_append (r : EnumRegistry) (es fs : List Enum) :
    r.registerAll (es ++ fs) = (r.registerAll es).registerAll fs := List.foldl_append

end Go

/-- Requires the paths and registers the enums. -/
def Needs.gather (n : Needs) (paths : List String) (enums : List Enum) : Needs :=
  ⟨n.imports.requireAll paths, n.enums.registerAll enums⟩

theorem Needs.gather_append (n : Needs) (ps qs : List String) (es fs : List Enum) :
    n.gather (ps ++ qs) (es ++ fs) = (n.gather ps es).gather qs fs := by
  simp only [gather, ImportSet.requireAll_append, EnumRegistry.registerAll_append]

/-- The types that are resolved for a routine. -/
def Routine.types (r : Routine) : List String :=
  r.arguments.map Argument.type ++ if r.hasResult then [r.result] else []

section Resolving
variable (o : Overrides) (c : Catalog)

/-- The imports that resolving a type requires. -/
def typeImports (text : String) : List String := ((o.hostType? text).bind o.importFor).toList

/-- The enum that resolving a type registers. -/
def typeEnums (text : String) : List Enum :=
  if o.hostType? text = none then
    match (lookupEnum c (.ofText text)).value with
    | .found labels => [⟨(Descriptor.ofText text).base, labels⟩]
    | _ => []
  else []

theorem importing_eq (n : Needs) (type : String) :
    n.importing o type = n.gather (o.importFor type).toList [] := by
  unfold Needs.importing
  cases o.importFor type <;> rfl

theorem importing_gathered {text type : String} (h : o.hostType? text = some type) (n : Needs) :
    n.importing o type = n.gather (typeImports o text) (typeEnums o c text) := by
  rw [importing_eq, typeImports, typeEnums, h, if_neg (Option.some_ne_none type)]
  rfl

theorem resolveByCatalog_gathered {text : String} (h : o.hostType? text = none) (n : Needs) :
    (resolveByCatalog c (.ofText text) n).value.2 =
      n.gather (typeImports o text) (typeEnums o c text) := by
  simp only [resolveByCatalog, Journaled.value_bind, typeImports, typeEnums, h, if_true]
  cases (lookupEnum c (.ofText text)).value with
  | empty => rfl
  | failed e => rfl
  | found labels =>
    cases labels with
    | nil => rfl
    | cons label labels => rfl

theorem resolveType_gathered (text : String) (n : Needs) :
    (resolveType o c text n).value.2 = n.gather (typeImports o text) (typeEnums o c text) := by
  simp only [resolveType, Journaled.value_bind, Journaled.value_pure, resolveBase]
  cases ho : o.types.get? (Descriptor.ofText text).base with
  | some type => exact importing_gathered o c (by simp [Overrides.hostType?, ho]) n
  | none =>
    cases hb : builtinType? (Descriptor.ofText text).base with
    | some type => exact importing_gathered o c (by simp [Overrides.hostType?, ho, hb]) n
    | none => exact resolveByCatalog_gathered o c (by simp [Overrides.hostType?, ho, hb]) n

theorem resolveArguments_gathered (as : List Argument) (n : Needs) :
    (resolveArguments o c as n).value.2 =
      n.gather ((as.map Argument.type).flatMap (typeImports o))
        ((as.map Argument.type).flatMap (typeEnums o c)) := by
  induction as generalizing n with
  | nil => rfl
  | cons a as ih =>
    simp only [resolveArguments, resolveArgument, Journaled.value_bind, Journaled.value_pure,
      List.map_cons, List.flatMap_cons, Needs.gather_append]
    rw [ih, resolveType_gathered]

theorem resolveRoutine_gathered (r : Routine) (n : Needs) :
    (resolveRoutine o c r n).value.2 =
      n.gather (r.types.flatMap (typeImports o)) (r.types.flatMap (typeEnums o c)) := by
  simp only [resolveRoutine, Journaled.value_bind, Journaled.value_pure, Routine.types,
    List.flatMap_append, Needs.gather_append, resolveResult]
  rw [← resolveArguments_gathered]
  cases r.hasResult with
  | false => rfl
  | true =>
    simp only [if_true, Journaled.value_bind, Journaled.value_pure, List.flatMap_singleton]
    rw [resolveType_gathered]

/-- The wrappers that are added, and what they gather. -/
theorem addWrappers_gathered (rs : List Routine) (f : WrapperFile) (n : Needs) :
    (addWrappers o c rs f n).value =
      ({ options := f.options
         decls := f.decls ++ rs.flatMap fun r => Wrapper.decls f.options (resolvedRoutine o c r)
         inlineArray := f.inlineArray ||
          rs.any fun r => Wrapper.usesInlineArray f.options (resolvedRoutine o c r) },
       n.gather (rs.flatMap fun r => r.types.flatMap (typeImports o) ++
          Wrapper.imports f.options (resolvedRoutine o c r))
        (rs.flatMap fun r => r.types.flatMap (typeEnums o c))) := by
  induction rs generalizing f n with
  | nil => simp [addWrappers, Needs.gather]
  | cons r rs ih =>
    have hadd : f.add (resolvedRoutine o c r) (resolveRoutine o c r n).value.2 =
        ({ options := f.options
           decls := f.decls ++ Wrapper.decls f.options (resolvedRoutine o c r)
           inlineArray := f.inlineArray ||
            Wrapper.usesInlineArray f.options (resolvedRoutine o c r) },
         n.gather (r.types.flatMap (typeImports o) ++
            Wrapper.imports f.options (resolvedRoutine o c r))
          (r.types.flatMap (typeEnums o c))) := by
      rw [resolveRoutine_gathered, WrapperFile.add, WrapperFile.prepare, Needs.gather,
        Needs.gather, ImportSet.requireAll_append]
    simp only [addWrappers, Journaled.value_bind, resolveRoutine_fst]
    rw [hadd, ih]
    simp only [List.flatMap_cons, List.any_cons, List.append_assoc, Bool.or_assoc,
      ← Needs.gather_append]

end Resolving
end RoutineBindings
