import RoutineBindings.Proofs.ArgumentReading
import RoutineBindings.Proofs.RoutineNames

/-!
# Looking up one routine

What introspection finds for a requested name is decided by the name, the answer of the catalog and
the first row of that answer, in this order. Further rows show in one warning and nowhere else.
-/
namespace RoutineBindings
open Text

/-- What the catalog answers to the question for a requested routine. -/
def answer (c : Catalog) (requested : String) : Except DatabaseError (List RoutineRow) :=
  c.routines (RoutineName.parts requested).1 (RoutineName.parts requested).2

/-- Several rows for a name are warned about once. -/
def overloadWarning (requested : String) (rows : List RoutineRow) : List Event :=
  if 1 < rows.length then [.warned (.overloaded requested rows.length)] else []

/-- A routine of another kind is warned about once its arguments have been read. -/
def kindWarning (requested : String) (row : RoutineRow) : List Event :=
  match Signature.parse row.arguments with
  | .error _ => []
  | .ok _ =>
    if RoutineKind.ofText row.kind = .normal then []
    else [.warned (.notNormal requested (.ofText row.kind))]

/-- The outcomes of a lookup, and what happens on the way. -/
structure LookedUp (c : Catalog) (requested : String) : Prop where
  invalidName : (∃ name reason,
    (introspect c requested).value = .error (.invalidName name reason)) ↔ ¬ RoutineNamed requested
  unasked : ¬ RoutineNamed requested → (introspect c requested).events = []
  asked : RoutineNamed requested →
    lookups (introspect c requested).events = [routineQuestion requested]
  database : ∀ e, (introspect c requested).value = .error (.database e) ↔
    RoutineNamed requested ∧ answer c requested = .error e
  notFound : ∀ schema name, (introspect c requested).value = .error (.notFound schema name) ↔
    RoutineNamed requested ∧ answer c requested = .ok [] ∧
      RoutineName.parts requested = (schema, name)
  malformed : ∀ e, ((introspect c requested).value = .error e ∧
      ∃ segment, e = .malformedArgument segment) ↔
    RoutineNamed requested ∧ ∃ row others, answer c requested = .ok (row :: others) ∧
      Signature.parse row.arguments = .error e
  found : ∀ r, (introspect c requested).value = .ok r ↔
    RoutineNamed requested ∧ ∃ row others arguments,
      answer c requested = .ok (row :: others) ∧
      Signature.parse row.arguments = .ok arguments ∧
      r = { schema := (RoutineName.parts requested).1
            name := (RoutineName.parts requested).2
            kind := .ofText row.kind
            arguments
            result := row.result
            description := row.description.filter fun d => !d.toList.all isBlank }
  unwarned : RoutineNamed requested → (∀ row others, answer c requested ≠ .ok (row :: others)) →
    (introspect c requested).events = [routineQuestion requested]
  warned : RoutineNamed requested → ∀ row others, answer c requested = .ok (row :: others) →
    (introspect c requested).events = routineQuestion requested ::
      (overloadWarning requested (row :: others) ++ kindWarning requested row)

section Outcomes
variable {c : Catalog} {q : String} {row : RoutineRow} {others : List RoutineRow}

theorem shownDescription_eq (row : RoutineRow) :
    row.shownDescription = row.description.filter fun d => !d.toList.all isBlank := by
  have hblank : ∀ d : String, (trim d.toList).isEmpty = d.toList.all isBlank := fun d => by
    rw [Bool.eq_iff_iff, List.isEmpty_iff, trim_eq_nil_iff, List.all_eq_true]
  simp only [RoutineRow.shownDescription, hblank]

theorem introspect_unnamed (h : ¬ RoutineNamed q) (c : Catalog) :
    ∃ reason, introspect c q = ⟨.error (.invalidName q reason), []⟩ := by
  have hinvalid : ∃ reason, RoutineName.validate q = .error (.invalidName q reason) := by
    rw [← isAccepted_iff] at h
    unfold RoutineName.validate
    by_cases hempty : q.isEmpty
    · exact ⟨_, if_pos hempty⟩
    · exact ⟨_, by rw [if_neg hempty, if_neg h]⟩
  obtain ⟨reason, hreason⟩ := hinvalid
  refine ⟨reason, ?_⟩
  rw [introspect, hreason]
  rfl

theorem introspect_refused (h : RoutineNamed q) {e : DatabaseError} (ha : answer c q = .error e) :
    introspect c q = ⟨.error (.database e), [routineQuestion q]⟩ := by
  unfold answer at ha
  rw [introspect, validate_iff.2 h]
  apply Journaled.eq_mk
  · simp [Catalog.askRoutines, ha]
  · simp [Catalog.askRoutines, ha, routineQuestion]

theorem introspect_answered (h : RoutineNamed q) {rows : List RoutineRow}
    (ha : answer c q = .ok rows) :
    introspect c q =
      ⟨(chooseRoutine q (RoutineName.parts q).1 (RoutineName.parts q).2 rows).value,
        routineQuestion q ::
          (chooseRoutine q (RoutineName.parts q).1 (RoutineName.parts q).2 rows).events⟩ := by
  unfold answer at ha
  rw [introspect, validate_iff.2 h]
  apply Journaled.eq_mk
  · simp [Catalog.askRoutines, ha]
  · simp [Catalog.askRoutines, ha, routineQuestion]

theorem chooseRoutine_events (requested schema name : String) (row : RoutineRow)
    (others : List RoutineRow) :
    (chooseRoutine requested schema name (row :: others)).events =
      overloadWarning requested (row :: others) ++ kindWarning requested row := by
  have hkind : ∀ arguments, (row.routine schema name arguments).kind = .ofText row.kind :=
    fun _ => rfl
  rw [chooseRoutine, kindWarning]
  cases Signature.parse row.arguments with
  | error e => cases others <;> simp [overloadWarning]
  | ok arguments =>
    by_cases hnormal : RoutineKind.ofText row.kind = .normal
    · cases others <;> simp [overloadWarning, hkind, hnormal]
    · cases others <;> simp [overloadWarning, hkind, hnormal]

/-- How a lookup ends. -/
inductive Ending (c : Catalog) (q : String) : Except IntrospectionError Routine → Prop where
  | invalidName (h : ¬ RoutineNamed q) (reason : String) :
    Ending c q (.error (.invalidName q reason))
  | database (h : RoutineNamed q) {e} (ha : answer c q = .error e) :
    Ending c q (.error (.database e))
  | notFound (h : RoutineNamed q) (ha : answer c q = .ok []) :
    Ending c q (.error (.notFound (RoutineName.parts q).1 (RoutineName.parts q).2))
  | malformed (h : RoutineNamed q) {row others segment} (ha : answer c q = .ok (row :: others))
    (hp : Signature.parse row.arguments = .error (.malformedArgument segment)) :
    Ending c q (.error (.malformedArgument segment))
  | found (h : RoutineNamed q) {row others arguments} (ha : answer c q = .ok (row :: others))
    (hp : Signature.parse row.arguments = .ok arguments) :
    Ending c q (.ok (row.routine (RoutineName.parts q).1 (RoutineName.parts q).2 arguments))

theorem introspect_row (h : RoutineNamed q) (ha : answer c q = .ok (row :: others)) :
    introspect c q = ⟨(Signature.parse row.arguments).map
        (row.routine (RoutineName.parts q).1 (RoutineName.parts q).2),
      routineQuestion q :: (overloadWarning q (row :: others) ++ kindWarning q row)⟩ := by
  rw [introspect_answered h ha, chooseRoutine_events, (chooseRoutine_cons ..).1]

theorem introspect_ending (c : Catalog) (q : String) : Ending c q (introspect c q).value := by
  by_cases h : RoutineNamed q
  · cases ha : answer c q with
    | error e =>
      rw [introspect_refused h ha]
      exact .database h ha
    | ok rows =>
      cases rows with
      | nil =>
        rw [introspect_answered h ha]
        exact .notFound h ha
      | cons row others =>
        rw [introspect_row h ha]
        cases hp : Signature.parse row.arguments with
        | error e =>
          obtain ⟨segment, rfl⟩ := Signature.parse_eq_error hp
          exact .malformed h ha hp
        | ok arguments => exact .found h ha hp
  · obtain ⟨reason, hinvalid⟩ := introspect_unnamed h c
    rw [hinvalid]
    exact .invalidName h reason

/-- The ending is the one that a result names. -/
theorem ending_of_value {v : Except IntrospectionError Routine}
    (h : (introspect c q).value = v) : Ending c q v := h ▸ introspect_ending c q

theorem lookedUp (c : Catalog) (q : String) : LookedUp c q where
  invalidName := by
    constructor
    · rintro ⟨name, reason, h⟩
      cases ending_of_value h with
      | invalidName hq => exact hq
    · intro h
      obtain ⟨reason, hinvalid⟩ := introspect_unnamed h c
      exact ⟨q, reason, by rw [hinvalid]⟩
  unasked h := by
    obtain ⟨reason, hinvalid⟩ := introspect_unnamed h c
    rw [hinvalid]
  asked h := introspect_asks h c
  database e := by
    constructor
    · intro h
      cases ending_of_value h with
      | database hq ha => exact ⟨hq, ha⟩
    · rintro ⟨hq, ha⟩
      rw [introspect_refused hq ha]
  notFound schema name := by
    constructor
    · intro h
      cases ending_of_value h with
      | notFound hq ha => exact ⟨hq, ha, rfl⟩
    · rintro ⟨hq, ha, hparts⟩
      rw [introspect_answered hq ha, hparts]
      rfl
  malformed e := by
    constructor
    · rintro ⟨h, segment, rfl⟩
      cases ending_of_value h with
      | malformed hq ha hp => exact ⟨hq, _, _, ha, hp⟩
    · rintro ⟨hq, row, others, ha, hp⟩
      rw [introspect_row hq ha, hp]
      exact ⟨rfl, Signature.parse_eq_error hp⟩
  found r := by
    constructor
    · intro h
      cases ending_of_value h with
      | @found hq row others arguments ha hp =>
        refine ⟨hq, row, others, arguments, ha, hp, ?_⟩
        rw [RoutineRow.routine, shownDescription_eq]
    · rintro ⟨hq, row, others, arguments, ha, hp, rfl⟩
      rw [introspect_row hq ha, hp, ← shownDescription_eq]
      rfl
  unwarned h hno := by
    cases ha : answer c q with
    | error e => rw [introspect_refused h ha]
    | ok rows =>
      cases rows with
      | nil =>
        rw [introspect_answered h ha]
        rfl
      | cons row others => exact absurd ha (hno row others)
  warned h row others ha := by rw [introspect_row h ha]

end Outcomes

/-- A lookup ends in the one way that the name, the answer of the catalog and the first row of that
answer decide. Answers with the same first row give the same result, and differ at most in the
warning that counts the rows. -/
theorem introspect_decided (c : Catalog) (q : String) :
    LookedUp c q ∧ ∀ c' rows rows', RoutineNamed q → answer c q = .ok rows →
      answer c' q = .ok rows' → rows.head? = rows'.head? →
      (introspect c q).value = (introspect c' q).value ∧
      ∃ rest, (introspect c q).events = routineQuestion q :: (overloadWarning q rows ++ rest) ∧
        (introspect c' q).events = routineQuestion q :: (overloadWarning q rows' ++ rest) := by
  refine ⟨lookedUp c q, fun c' rows rows' h ha ha' hhead => ?_⟩
  cases rows with
  | nil =>
    obtain rfl : rows' = [] := by simpa [eq_comm] using hhead
    rw [introspect_answered h ha, introspect_answered h ha']
    exact ⟨rfl, [], rfl, rfl⟩
  | cons row others =>
    obtain ⟨others', rfl⟩ : ∃ others', rows' = row :: others' := by
      cases rows' with
      | nil => cases hhead
      | cons row' others' =>
        cases hhead
        exact ⟨others', rfl⟩
    rw [introspect_row h ha, introspect_row h ha']
    exact ⟨rfl, kindWarning q row, rfl, rfl⟩

/-- A catalog that answers every question with the same rows. -/
def catalogOf (rows : List RoutineRow) : Catalog where
  routines _ _ := .ok rows
  enumLabels _ _ := .ok []

/-- A procedure whose first argument has no type. -/
def untypedRow : RoutineRow := ⟨"x", "", "procedure", some " "⟩

/-- Two further rows show in the warning alone, also where the first one cannot be read. -/
theorem touch_decided :
    RoutineNamed "ops.touch" ∧
      (introspect (catalogOf [untypedRow]) "ops.touch").value =
        (introspect (catalogOf [untypedRow, ⟨"id uuid", "", "normal", none⟩, untypedRow])
          "ops.touch").value ∧
      (introspect (catalogOf [untypedRow, ⟨"id uuid", "", "normal", none⟩, untypedRow])
        "ops.touch").events =
        [.routineLookup "ops" "touch", .warned (.overloaded "ops.touch" 3)] := by
  have hnamed : RoutineNamed "ops.touch" := isAccepted_iff.1 (by decide)
  obtain ⟨hvalue, -⟩ := (introspect_decided (catalogOf [untypedRow]) "ops.touch").2
    (catalogOf [untypedRow, ⟨"id uuid", "", "normal", none⟩, untypedRow]) _ _ hnamed rfl rfl rfl
  exact ⟨hnamed, hvalue, by decide +kernel⟩

end RoutineBindings
