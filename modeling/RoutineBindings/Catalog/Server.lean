import RoutineBindings.Catalog.Basic
import RoutineBindings.Text.Blank

/-!
# Database server

A server answers the catalog queries with raw rows, in which most columns may be missing, or
with an error text of its own. `Server.catalog` turns it into a catalog.
-/
namespace RoutineBindings
open Text

/-- One row of the routine query. -/
structure RawRow where
  arguments : Option String
  result : Option String
  kind : String
  description : Option String
  deriving Repr, DecidableEq

structure Server where
  routines : String → String → Except String (List RawRow)
  enumLabels : Option String → String → Except String (List String)

/-- The result type of a routine, empty for one that returns nothing. -/
def normalResult : Option String → String
  | none => ""
  | some result =>
    let shown := trimText result
    if shown = "void" then "" else shown

def RawRow.row (r : RawRow) : RoutineRow :=
  { arguments := r.arguments.getD "", result := normalResult r.result, kind := r.kind,
    description := r.description }

/-- The catalog of a server. A refused query is reported with what it was about. -/
def Server.catalog (s : Server) : Catalog where
  routines schema name :=
    match s.routines schema name with
    | .ok rows => .ok (rows.map RawRow.row)
    | .error e =>
      .error (.query ("Failed to introspect " ++ schema ++ "." ++ name
        ++ ": error returned from database: " ++ e))
  enumLabels schema name :=
    match s.enumLabels schema name with
    | .ok labels => .ok labels
    | .error e =>
      .error (.query ("Failed to look up enum labels of '" ++ name
        ++ "': error returned from database: " ++ e))

end RoutineBindings
