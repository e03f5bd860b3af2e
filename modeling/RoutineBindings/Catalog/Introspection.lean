import RoutineBindings.Catalog.Basic

/-!
# Introspection

Finds a requested routine in the catalog. Of several routines with the name the first counts.
-/
namespace RoutineBindings
open Text

/-- A description that is blank counts as none. -/
def RoutineRow.shownDescription (row : RoutineRow) : Option String :=
  row.description.filter fun d => !(trim d.toList).isEmpty

/-- The routine that a row describes. -/
def RoutineRow.routine (row : RoutineRow) (schema name : String) (arguments : List Argument) :
    Routine :=
  { schema, name, kind := .ofText row.kind, arguments, result := row.result,
    description := row.shownDescription }

/-- Chooses among the rows found for a name, warning about what is unusual. -/
def chooseRoutine (requested schema name : String) :
    List RoutineRow → Journaled (Except IntrospectionError Routine)
  | [] => return .error (.notFound schema name)
  | row :: others => do
    if !others.isEmpty then
      Journaled.warn (.overloaded requested (others.length + 1))
    match Signature.parse row.arguments with
    | .error e => return .error e
    | .ok arguments =>
      let routine := row.routine schema name arguments
      if routine.kind ≠ .normal then
        Journaled.warn (.notNormal requested routine.kind)
      return .ok routine

/-- Looks up a routine by the name it is requested with. -/
def introspect (c : Catalog) (requested : String) :
    Journaled (Except IntrospectionError Routine) :=
  match RoutineName.validate requested with
  | .error e => return .error e
  | .ok () => do
    let (schema, name) := RoutineName.parts requested
    match ← c.askRoutines schema name with
    | .error e => return .error (.database e)
    | .ok rows => chooseRoutine requested schema name rows

/-- Looks up routines in order, up to the first that cannot be found. -/
def introspectAll (c : Catalog) :
    List String → Journaled (Except IntrospectionError (List Routine))
  | [] => return .ok []
  | name :: names => do
    match ← introspect c name with
    | .error e => return .error e
    | .ok r =>
      match ← introspectAll c names with
      | .error e => return .error e
      | .ok rs => return .ok (r :: rs)

end RoutineBindings
