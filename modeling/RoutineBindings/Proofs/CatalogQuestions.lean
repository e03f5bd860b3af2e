import RoutineBindings.Proofs.EnumDeclarations
import RoutineBindings.Proofs.RoutineNames

/-!
# What the catalog is asked

A run asks for the routines first, one by one, and the first name that cannot be found ends it.
Only after the last name are types asked about: every type whose base neither table knows, in the
order in which the types of the routines are written. Nothing else is asked.
-/
namespace RoutineBindings
open Go

/-- The question for the labels of a type. -/
def enumQuestion : Option String × String → Event
  | (schema, name) => .enumLookup schema name

/-- The schemas and names that are asked for when the types are resolved one after the other. -/
inductive AskedAbout (o : Overrides) : List String → List (Option String × String) → Prop where
  | done : AskedAbout o [] []
  | known {text base : String} {marked : Bool} {texts asked} (hs : Stripped text base marked)
      (hk : o.types.get? base ≠ none ∨ builtinType? base ≠ none)
      (h : AskedAbout o texts asked) : AskedAbout o (text :: texts) asked
  | unknown {text base name : String} {schema : Option String} {marked : Bool} {texts asked}
      (hs : Stripped text base marked) (ho : o.types.get? base = none)
      (hb : builtinType? base = none) (hq : Qualified base schema name)
      (h : AskedAbout o texts asked) : AskedAbout o (text :: texts) ((schema, name) :: asked)

section Introspection
variable {c : Catalog} {names : List String} {rs : List Routine} {e : IntrospectionError}

/-- A name of another form is not looked up. -/
theorem introspect_unasked {name : String} (h : ¬ RoutineNamed name) (c : Catalog) :
    (introspect c name).events = [] := by
  rw [introspect]
  cases hv : RoutineName.validate name with
  | ok u => exact absurd (validate_iff.1 hv) h
  | error e => rfl

theorem Found.named {name : String} {r : Routine} (h : Found c name r) : RoutineNamed name := by
  unfold Found introspect at h
  cases hv : RoutineName.validate name with
  | ok u => exact validate_iff.1 hv
  | error e =>
    rw [hv] at h
    cases h

theorem introspectAll_events_of_found {name : String} {r : Routine} (h : Found c name r)
    (names : List String) : (introspectAll c (name :: names)).events =
      (introspect c name).events ++ (introspectAll c names).events := by
  unfold Found at h
  simp only [introspectAll, Journaled.events_bind, h]
  cases (introspectAll c names).value <;> simp

theorem introspectAll_events_of_error {name : String}
    (h : (introspect c name).value = .error e) (names : List String) :
    (introspectAll c (name :: names)).events = (introspect c name).events := by
  simp [introspectAll, h]

/-- Names that are found are asked for one after the other. -/
theorem introspectAll_append (h : ∀ x ∈ names, ∃ r, Found c x r) (others : List String) :
    lookups (introspectAll c (names ++ others)).events =
      names.map routineQuestion ++ lookups (introspectAll c others).events := by
  induction names with
  | nil => rfl
  | cons name names ih =>
    obtain ⟨r, hr⟩ := h name List.mem_cons_self
    have hrest := ih fun x hx => h x (List.mem_cons_of_mem name hx)
    rw [List.cons_append, introspectAll_events_of_found hr, lookups_append,
      introspect_asks hr.named, hrest]
    rfl

theorem introspectAll_asks (h : List.Forall₂ (Found c) names rs) :
    lookups (introspectAll c names).events = names.map routineQuestion := by
  have hfound : ∀ x ∈ names, ∃ r, Found c x r := by
    intro x hx
    obtain ⟨r, -, hr⟩ := found_of_mem h hx
    exact ⟨r, hr⟩
  simpa [introspectAll] using introspectAll_append hfound []

/-- The first name that fails is the last one that is asked for. -/
theorem introspectAll_asks_until {before : List String} {name : String}
    (h : ∀ x ∈ before, ∃ r, Found c x r) (hname : (introspect c name).value = .error e)
    (after : List String) :
    lookups (introspectAll c (before ++ name :: after)).events =
      before.map routineQuestion ++ lookups (introspect c name).events := by
  rw [introspectAll_append h, introspectAll_events_of_error hname]

end Introspection

/-- What is asked about a type, if neither table knows its base. -/
def Overrides.question? (o : Overrides) (text : String) : Option (Option String × String) :=
  if o.hostType? text = none then some (Descriptor.ofText text).qualified else none

section Questions
variable {o : Overrides} {text : String}

theorem hostType_eq_none_iff : o.hostType? text = none ↔
    o.types.get? (Descriptor.ofText text).base = none ∧
      builtinType? (Descriptor.ofText text).base = none := Option.or_eq_none_iff

theorem question_of_known (h : o.types.get? (Descriptor.ofText text).base ≠ none ∨
    builtinType? (Descriptor.ofText text).base ≠ none) : o.question? text = none := by
  refine if_neg fun hhost => ?_
  obtain ⟨ho, hb⟩ := hostType_eq_none_iff.1 hhost
  exact h.elim (absurd ho) (absurd hb)

theorem question_of_unknown (ho : o.types.get? (Descriptor.ofText text).base = none)
    (hb : builtinType? (Descriptor.ofText text).base = none) :
    o.question? text = some (Descriptor.ofText text).qualified :=
  if_pos (hostType_eq_none_iff.2 ⟨ho, hb⟩)

theorem askedAbout_questions (o : Overrides) (texts : List String) :
    AskedAbout o texts (texts.filterMap o.question?) := by
  induction texts with
  | nil => exact .done
  | cons text texts ih =>
    have hs := Descriptor.ofText_stripped text
    by_cases hk : o.types.get? (Descriptor.ofText text).base ≠ none ∨
        builtinType? (Descriptor.ofText text).base ≠ none
    · rw [List.filterMap_cons_none (question_of_known hk)]
      exact .known hs hk ih
    · obtain ⟨ho, hb⟩ := not_or.1 hk
      rw [not_not] at ho hb
      rw [List.filterMap_cons_some (question_of_unknown ho hb)]
      exact .unknown hs ho hb (Descriptor.qualified_spec _) ih

end Questions

section Resolving
variable (o : Overrides) (c : Catalog)

/-- The warning after a question about a type that the catalog refused. -/
def refusal (type : String) : Except DatabaseError (List String) → List Event
  | .ok _ => []
  | .error e => [.warned (.enumLookupFailed type e)]

/-- What happens while a type is resolved: at most one question, and a warning if it is refused. -/
def typeEvents (text : String) : List Event :=
  match o.question? text with
  | none => []
  | some parts => enumQuestion parts ::
    refusal (Descriptor.ofText text).base (c.enumLabels parts.1 parts.2)

theorem resolveType_events (text : String) (n : Needs) :
    (resolveType o c text n).events = typeEvents o c text := by
  obtain ⟨t, m, events, hdecided, hbase⟩ := resolveBase_decided o c (Descriptor.ofText text) n
  have hevents : (resolveType o c text n).events = events := by
    simp [resolveType, hbase]
  rw [hevents, typeEvents]
  cases hdecided with
  | override h => rw [question_of_known (.inl (by simp [h]))]
  | builtin ho h => rw [question_of_known (.inr (by simp [h]))]
  | catalogEnum ho hb hq h | noEnum ho hb hq h | failed ho hb hq h =>
    simp only [question_of_unknown ho hb, hq.parts_eq, h]
    rfl

theorem resolveArguments_events (as : List Argument) (n : Needs) :
    (resolveArguments o c as n).events = (as.map Argument.type).flatMap (typeEvents o c) := by
  induction as generalizing n with
  | nil => rfl
  | cons a as ih =>
    simp only [resolveArguments, resolveArgument, Journaled.events_bind, Journaled.events_pure,
      resolveType_events, ih, List.append_nil, List.map_cons, List.flatMap_cons]

theorem resolveRoutine_events (r : Routine) (n : Needs) :
    (resolveRoutine o c r n).events = r.types.flatMap (typeEvents o c) := by
  simp only [resolveRoutine, resolveResult, Routine.types, Journaled.events_bind,
    Journaled.events_pure, resolveArguments_events, List.append_nil, List.flatMap_append]
  cases r.hasResult with
  | false => rfl
  | true => simp [resolveType_events]

/-- Types are asked about in the order of the routines, and in each in the order of its types. -/
theorem addWrappers_events (rs : List Routine) (f : WrapperFile) (n : Needs) :
    (addWrappers o c rs f n).events = (rs.flatMap Routine.types).flatMap (typeEvents o c) := by
  induction rs generalizing f n with
  | nil => rfl
  | cons r rs ih =>
    simp only [addWrappers, Journaled.events_bind, resolveRoutine_events, ih, List.flatMap_cons,
      List.flatMap_append]

theorem lookups_typeEvents (texts : List String) :
    lookups (texts.flatMap (typeEvents o c)) = (texts.filterMap o.question?).map enumQuestion := by
  induction texts with
  | nil => rfl
  | cons text texts ih =>
    rw [List.flatMap_cons, lookups_append, ih, typeEvents]
    cases hq : o.question? text with
    | none => rw [List.filterMap_cons_none hq]; rfl
    | some parts =>
      rw [List.filterMap_cons_some hq]
      cases h : c.enumLabels parts.1 parts.2 <;> simp only [h] <;> rfl

end Resolving

section Synthesizing
variable {c : Catalog} {q : GenerationRequest} {rs : List Routine}

theorem synthesize_events_of_found (hne : q.routines ≠ [])
    (h : List.Forall₂ (Found c) q.routines rs) :
    (synthesize c q).events = (introspectAll c q.routines).events ++
      (rs.flatMap Routine.types).flatMap (typeEvents q.overrides c) := by
  rw [synthesize, if_neg (mt List.isEmpty_iff.1 hne)]
  simp only [Journaled.events_bind, introspectAll_eq_ok.2 h, addWrappers_events,
    Journaled.events_pure, List.append_nil]

/-- A name that cannot be found keeps the run from every question about a type. -/
theorem synthesize_events_of_error {e : IntrospectionError} (hne : q.routines ≠ [])
    (h : (introspectAll c q.routines).value = .error e) :
    (synthesize c q).events = (introspectAll c q.routines).events := by
  rw [synthesize, if_neg (mt List.isEmpty_iff.1 hne)]
  simp only [Journaled.events_bind, h, Journaled.events_pure, List.append_nil]

end Synthesizing

/-- If a requested name cannot be found, the run ends with the error of the first such name. Then
the names before it have been asked for, and the name itself if it is one, but no type. Otherwise
every name has been asked for, and after that the types of the routines. -/
theorem synthesize_asks (c : Catalog) (q : GenerationRequest) :
    (∀ missing ∈ q.routines, ∀ e', (introspect c missing).value = .error e' →
      ∃ before name after e, q.routines = before ++ name :: after ∧
        (∀ x ∈ before, ∃ r, Found c x r) ∧ (introspect c name).value = .error e ∧
        (synthesize c q).value = .error (.introspection e) ∧
        (RoutineNamed name →
          lookups (synthesize c q).events = (before ++ [name]).map routineQuestion) ∧
        (¬ RoutineNamed name → lookups (synthesize c q).events = before.map routineQuestion)) ∧
    (∀ s, (synthesize c q).value = .ok s →
      ∃ rs asked, List.Forall₂ (Found c) q.routines rs ∧
        AskedAbout q.overrides (rs.flatMap Routine.types) asked ∧
        lookups (synthesize c q).events =
          q.routines.map routineQuestion ++ asked.map enumQuestion) := by
  constructor
  · intro missing hmem e' hmissing
    obtain ⟨e, hfirst⟩ := exists_firstFailure_iff.2 ⟨missing, hmem, e', hmissing⟩
    have hevents := synthesize_events_of_error (List.ne_nil_of_mem hmem)
      (introspectAll_eq_error.2 hfirst)
    have hvalue := synthesize_eq_error.2 (.introspection hfirst)
    obtain ⟨before, name, after, hsplit, hfound, hname⟩ := hfirst
    rw [hsplit] at hevents
    have hasked := introspectAll_asks_until hfound hname after
    refine ⟨before, name, after, e, hsplit, hfound, hname, hvalue, ?_, ?_⟩
    · intro hnamed
      rw [hevents, hasked, introspect_asks hnamed, List.map_append]
      rfl
    · intro hnamed
      rw [hevents, hasked, introspect_unasked hnamed, lookups_nil, List.append_nil]
  · intro s hs
    obtain ⟨hne, rs, hfound, -⟩ := synthesize_eq_ok.1 hs
    refine ⟨rs, _, hfound, askedAbout_questions q.overrides _, ?_⟩
    rw [synthesize_events_of_found hne hfound, lookups_append, introspectAll_asks hfound,
      lookups_typeEvents]

/-- A catalog with one routine, which takes moods of two schemas and gives a set of them. -/
def voteCatalog : Catalog where
  routines _ name :=
    if name = "vote" then
      .ok [⟨"felt app.mood, day date, moods mood[]", "SETOF app.mood", "normal", none⟩]
    else .ok []
  enumLabels _ _ := .ok ["sad", "happy"]

def voteRoutine : Routine :=
  { schema := "public", name := "vote", kind := .normal
    arguments := [⟨"felt", "app.mood"⟩, ⟨"day", "date"⟩, ⟨"moods", "mood[]"⟩]
    result := "SETOF app.mood", description := none }

def voteRequest (routines : List String) : GenerationRequest where
  routines := routines
  output := "db.go"
  options := ⟨"db", false, .accessor, "getDB", none⟩
  overrides := ⟨[], []⟩
  dryRun := true

theorem vote_asks :
    (∃ before name after e, ["vote", "drop table", "poll"] = before ++ name :: after ∧
      (∀ x ∈ before, ∃ r, Found voteCatalog x r) ∧ (introspect voteCatalog name).value = .error e ∧
      (synthesize voteCatalog (voteRequest ["vote", "drop table", "poll"])).value =
        .error (.introspection e)) ∧
    ∃ s, (synthesize voteCatalog (voteRequest ["vote"])).value = .ok s ∧
      ∃ rs asked, List.Forall₂ (Found voteCatalog) ["vote"] rs ∧
        AskedAbout ⟨[], []⟩ (rs.flatMap Routine.types) asked ∧
        lookups (synthesize voteCatalog (voteRequest ["vote"])).events =
          ["vote"].map routineQuestion ++ asked.map enumQuestion := by
  constructor
  · have herror : (introspect voteCatalog "poll").value = .error (.notFound "public" "poll") := rfl
    obtain ⟨before, name, after, e, hsplit, hfound, hname, hvalue, -⟩ :=
      (synthesize_asks voteCatalog (voteRequest ["vote", "drop table", "poll"])).1 "poll"
        (by simp [voteRequest]) _ herror
    exact ⟨before, name, after, e, hsplit, hfound, hname, hvalue⟩
  · have hfound : List.Forall₂ (Found voteCatalog) ["vote"] [voteRoutine] := .cons rfl .nil
    have hs : (synthesize voteCatalog (voteRequest ["vote"])).value = .ok _ :=
      synthesize_eq_ok.2 ⟨by decide, _, hfound, rfl⟩
    exact ⟨_, hs, (synthesize_asks voteCatalog (voteRequest ["vote"])).2 _ hs⟩

example : lookups (synthesize voteCatalog (voteRequest ["vote"])).events =
    [.routineLookup "public" "vote", .enumLookup (some "app") "mood", .enumLookup none "mood",
      .enumLookup (some "app") "mood"] := by
  decide +kernel

end RoutineBindings
