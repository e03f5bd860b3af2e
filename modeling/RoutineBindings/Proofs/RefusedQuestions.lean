import RoutineBindings.Proofs.CatalogQuestions

/-!
# Refused questions

A catalog may refuse the questions about enums. If it refuses all of them, a run ends as it does
with a catalog that knows no enum: with the same error or the same file, after the same questions.
What remains of the refusals are warnings, one for each, after all other warnings.
-/
namespace RoutineBindings
open Go

section Answers
variable {c c' : Catalog} {o : Overrides}

namespace Catalog

/-- The catalog, as if it knew no enum. -/
def withoutEnums (c : Catalog) : Catalog := { c with enumLabels := fun _ _ => .ok [] }

/-- The catalog, as if it could not be asked about enums. -/
def refusingEnums (c : Catalog) (fault : Option String → String → DatabaseError) : Catalog :=
  { c with enumLabels := fun schema name => .error (fault schema name) }

/-- No question about an enum is answered with labels. -/
def NoLabels (c : Catalog) : Prop :=
  ∀ schema name labels, c.enumLabels schema name = .ok labels → labels = []

theorem withoutEnums_noLabels (c : Catalog) : c.withoutEnums.NoLabels :=
  fun _ _ _ h => (Except.ok.inj h).symm

theorem refusingEnums_noLabels (c : Catalog) (fault : Option String → String → DatabaseError) :
    (c.refusingEnums fault).NoLabels := nofun

end Catalog

/-- A type that neither table knows keeps its name, whether its question was refused or not. -/
theorem resolveByCatalog_of_noLabels (h : c.NoLabels) (d : Descriptor) (n : Needs) :
    (resolveByCatalog c d n).value = (⟨d.base, .passthrough⟩, n) := by
  rw [resolveByCatalog, lookupEnum_eq]
  cases hl : c.enumLabels d.qualified.1 d.qualified.2 with
  | error e => rfl
  | ok labels =>
    obtain rfl := h _ _ _ hl
    rfl

theorem resolvedBase_congr (h : c.NoLabels) (h' : c'.NoLabels) (text : String) :
    resolvedBase o c text = resolvedBase o c' text := by
  unfold resolvedBase resolveBase
  split
  · rfl
  · split
    · rfl
    · rw [resolveByCatalog_of_noLabels h, resolveByCatalog_of_noLabels h']

theorem resolvedRoutine_congr (h : c.NoLabels) (h' : c'.NoLabels) (r : Routine) :
    resolvedRoutine o c r = resolvedRoutine o c' r := by
  have hbase : resolvedBase o c = resolvedBase o c' := funext (resolvedBase_congr h h')
  have htype : goTypeOf o c = goTypeOf o c' := by
    funext text
    rw [goTypeOf, goTypeOf, hbase]
  have hargument : resolvedArgument o c = resolvedArgument o c' := by
    funext a
    rw [resolvedArgument, resolvedArgument, htype]
  simp only [resolvedRoutine, resolvedResult, hargument, htype, hbase]

theorem typeEnums_of_noLabels (h : c.NoLabels) : typeEnums o c = fun _ => [] := by
  funext text
  refine List.eq_nil_iff_forall_not_mem.2 fun e he => ?_
  obtain ⟨-, -, -, hlabels, schema, name, -, hl⟩ := mem_typeEnums.1 he
  exact hlabels (h _ _ _ hl)

theorem synthesisOf_congr (h : c.NoLabels) (h' : c'.NoLabels) (q : GenerationRequest)
    (rs : List Routine) : synthesisOf c q rs = synthesisOf c' q rs := by
  simp only [synthesisOf, addWrappers_gathered, resolvedRoutine_congr h h',
    typeEnums_of_noLabels h, typeEnums_of_noLabels h']

theorem synthesisOf_enumCount (h : c.NoLabels) (q : GenerationRequest) (rs : List Routine) :
    (synthesisOf c q rs).enumCount = 0 := by
  have hnone : rs.flatMap (fun r => r.types.flatMap (typeEnums q.overrides c)) = [] := by
    simp [typeEnums_of_noLabels h]
  simp only [synthesisOf, addWrappers_gathered, hnone]
  rfl

theorem introspectAll_congr (h : c.routines = c'.routines) (names : List String) :
    introspectAll c names = introspectAll c' names := by
  have hone : introspect c = introspect c' := by
    funext name
    simp only [introspect, Catalog.askRoutines, h]
  induction names with
  | nil => rfl
  | cons name names ih => rw [introspectAll, introspectAll, hone, ih]

end Answers

section Warnings

@[simp] theorem warnings_append (es fs : List Event) :
    warnings (es ++ fs) = warnings es ++ warnings fs := List.filterMap_append ..

@[simp] theorem enumLookups_append (es fs : List Event) :
    enumLookups (es ++ fs) = enumLookups es ++ enumLookups fs := List.filterMap_append ..

theorem enumLookups_lookups (events : List Event) :
    enumLookups (lookups events) = enumLookups events := filterMap_lookups (fun _ => rfl) events

theorem enumLookups_routineQuestions (names : List String) :
    enumLookups (names.map routineQuestion) = [] := by
  simp [enumLookups, routineQuestion, Event.enumLookup?]

theorem enumLookups_enumQuestions (asked : List (Option String × String)) :
    enumLookups (asked.map enumQuestion) = asked := by
  induction asked with
  | nil => rfl
  | cons parts asked ih =>
    unfold enumLookups at ih ⊢
    simp [enumQuestion, Event.enumLookup?, ih]

/-- No type is asked about while routines are looked up. -/
theorem introspectAll_enumLookups (c : Catalog) (names : List String) :
    enumLookups (introspectAll c names).events = [] := by
  rw [← enumLookups_lookups]
  cases h : (introspectAll c names).value with
  | ok rs => rw [introspectAll_asks (introspectAll_eq_ok.1 h), enumLookups_routineQuestions]
  | error e =>
    obtain ⟨before, name, after, rfl, hfound, hname⟩ := introspectAll_eq_error.1 h
    rw [introspectAll_asks_until hfound hname, enumLookups_append, enumLookups_routineQuestions]
    by_cases hnamed : RoutineNamed name
    · rw [introspect_asks hnamed]
      rfl
    · rw [introspect_unasked hnamed]
      rfl

theorem typeEvents_enumLookups (o : Overrides) (c : Catalog) (texts : List String) :
    enumLookups (texts.flatMap (typeEvents o c)) = texts.filterMap o.question? := by
  rw [← enumLookups_lookups, lookups_typeEvents, enumLookups_enumQuestions]

/-- The warning about a refused question: the type as it was written, and the error. -/
def refusalWarning (fault : Option String → String → DatabaseError) :
    Option String × String → Warning
  | (schema, name) => .enumLookupFailed (schema.elim "" (· ++ ".") ++ name) (fault schema name)

theorem warnings_withoutEnums (o : Overrides) (c : Catalog) (texts : List String) :
    warnings (texts.flatMap (typeEvents o c.withoutEnums)) = [] := by
  induction texts with
  | nil => rfl
  | cons text texts ih =>
    rw [List.flatMap_cons, warnings_append, ih, typeEvents]
    cases o.question? text <;> rfl

theorem warnings_refusingEnums (o : Overrides) (c : Catalog)
    (fault : Option String → String → DatabaseError) (texts : List String) :
    warnings (texts.flatMap (typeEvents o (c.refusingEnums fault))) =
      (texts.filterMap o.question?).map (refusalWarning fault) := by
  induction texts with
  | nil => rfl
  | cons text texts ih =>
    rw [List.flatMap_cons, warnings_append, ih, typeEvents]
    cases hq : o.question? text with
    | none => rw [List.filterMap_cons_none hq]; rfl
    | some parts =>
      have hparts : (Descriptor.ofText text).qualified = parts := by
        unfold Overrides.question? at hq
        split at hq
        · exact Option.some.inj hq
        · cases hq
      have hbase := (Descriptor.qualified_spec (.ofText text)).base_eq
      rw [List.filterMap_cons_some hq, hbase, hparts]
      rfl

end Warnings

/-- A run whose questions about enums are all refused has the outcome of one in which they are all
answered with no labels, and asks the same questions. It only warns, at the end, about each refused
question in their order. -/
theorem refused_as_unlabelled (c : Catalog) (fault : Option String → String → DatabaseError)
    (q : GenerationRequest) :
    (synthesize (c.refusingEnums fault) q).value = (synthesize c.withoutEnums q).value ∧
    (∀ s, (synthesize (c.refusingEnums fault) q).value = .ok s → s.enumCount = 0) ∧
    lookups (synthesize (c.refusingEnums fault) q).events =
      lookups (synthesize c.withoutEnums q).events ∧
    warnings (synthesize (c.refusingEnums fault) q).events =
      warnings (synthesize c.withoutEnums q).events ++
        (enumLookups (synthesize (c.refusingEnums fault) q).events).map (refusalWarning fault) := by
  have hroutines : (c.refusingEnums fault).routines = c.withoutEnums.routines := rfl
  have hall := introspectAll_congr hroutines q.routines
  have hvalue := congrArg Journaled.value hall
  have hcongr := synthesisOf_congr (c.refusingEnums_noLabels fault) c.withoutEnums_noLabels q
  refine ⟨?_, ?_, ?_⟩
  · rw [synthesize_value, synthesize_value, hall, funext hcongr]
  · intro s hs
    obtain ⟨-, rs, -, rfl⟩ := synthesize_eq_ok.1 hs
    exact synthesisOf_enumCount (c.refusingEnums_noLabels fault) q rs
  by_cases hne : q.routines = []
  · simp [synthesize, hne, warnings, enumLookups]
  cases h : (introspectAll c.withoutEnums q.routines).value with
  | error e =>
    rw [synthesize_events_of_error hne h, synthesize_events_of_error hne (hvalue.trans h), hall,
      introspectAll_enumLookups]
    exact ⟨rfl, (List.append_nil _).symm⟩
  | ok rs =>
    rw [synthesize_events_of_found hne (introspectAll_eq_ok.1 h),
      synthesize_events_of_found hne (introspectAll_eq_ok.1 (hvalue.trans h)), hall]
    simp only [lookups_append, warnings_append, enumLookups_append, lookups_typeEvents,
      typeEvents_enumLookups, introspectAll_enumLookups, warnings_withoutEnums,
      warnings_refusingEnums, List.nil_append, List.append_nil, and_self]

/-- The catalog of the votes, for a role that may not read types. -/
def deniedCatalog : Catalog := voteCatalog.refusingEnums fun _ _ => .query "denied"

theorem vote_refused : ∃ s, (synthesize deniedCatalog (voteRequest ["vote"])).value = .ok s ∧
    s.enumCount = 0 ∧
    warnings (synthesize deniedCatalog (voteRequest ["vote"])).events =
      ["app.mood", "mood", "app.mood"].map fun type =>
        .enumLookupFailed type (.query "denied") := by
  obtain ⟨-, hcount, -, hwarnings⟩ :=
    refused_as_unlabelled voteCatalog (fun _ _ => .query "denied") (voteRequest ["vote"])
  have hfound : List.Forall₂ (Found deniedCatalog) ["vote"] [voteRoutine] := .cons rfl .nil
  have hs : (synthesize deniedCatalog (voteRequest ["vote"])).value = .ok _ :=
    synthesize_eq_ok.2 ⟨by decide, _, hfound, rfl⟩
  refine ⟨_, hs, hcount _ hs, hwarnings.trans ?_⟩
  decide +kernel

end RoutineBindings
