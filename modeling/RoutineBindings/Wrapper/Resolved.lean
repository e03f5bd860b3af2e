import RoutineBindings.Wrapper.TypeResolution

/-!
# Resolved routines

A routine whose argument and result types are Go types, ready to be written as a wrapper, and the
options that wrappers are written with.
-/
namespace RoutineBindings

/-- How a wrapper gets its database connection. -/
inductive ConnectionStyle where
  /-- It calls an accessor function of its package. -/
  | accessor
  /-- It takes the connection as its first parameter. -/
  | parameter
  deriving Repr, DecidableEq

/-- A function of another package that formats identifiers as an array literal. -/
structure ArrayHelper where
  importPath : String
  /-- The function with its package qualifier. -/
  function : String
  deriving Repr, DecidableEq

structure WrapperOptions where
  package : String
  /-- Whether each wrapper comes with a structure that describes its arguments. -/
  argsDef : Bool
  connection : ConnectionStyle
  dbAccessor : String
  arrayHelper : Option ArrayHelper
  deriving Repr, DecidableEq


structure ResolvedArgument where
  /-- The name in the database. -/
  name : String
  goName : String
  exportedName : String
  goType : String
  deriving Repr, DecidableEq

/-- The type of the arguments that are passed as an array literal. -/
def identifierSlice : String := "[]uuid.UUID"

def ResolvedArgument.isIdentifierSlice (a : ResolvedArgument) : Bool :=
  a.goType = identifierSlice

/-- How the result of a routine is read. With `structScan` a whole row is read into a
structure, otherwise a single column. -/
inductive ResultShape where
  | none
  | single (goType : String) (structScan : Bool)
  /-- A set of rows; `goType` is the slice type and `element` that of one row. -/
  | rows (goType element : String) (structScan : Bool)
  deriving Repr, DecidableEq

namespace ResultShape

def goType? : ResultShape → Option String
  | .none => Option.none
  | .single goType _ => some goType
  | .rows goType _ _ => some goType

def structScan : ResultShape → Bool
  | .none => false
  | .single _ s => s
  | .rows _ _ s => s

/-- The shape of a result, from its type as the catalog spells it and its resolution. The
rows of a set are read whole when they are pointers or of a type nothing is known about. -/
def ofResolved (result : String) (t : ResolvedType) : ResultShape :=
  if (Descriptor.ofText result).isSet then
    let element := Go.element t.goType
    .rows t.goType element (Go.isPointer element || t.strategy = .passthrough)
  else .single t.goType (Go.isPointer t.goType)

end ResultShape

structure ResolvedRoutine where
  routine : Routine
  arguments : List ResolvedArgument
  result : ResultShape
  deriving Repr, DecidableEq

def resolveArgument (o : Overrides) (c : Catalog) (a : Argument) (n : Needs) :
    Journaled (ResolvedArgument × Needs) := do
  let (t, n) ← resolveType o c a.type n
  return ({ name := a.name, goName := Go.parameterName a.name,
            exportedName := Go.exportedName a.name, goType := t.goType }, n)

def resolveArguments (o : Overrides) (c : Catalog) :
    List Argument → Needs → Journaled (List ResolvedArgument × Needs)
  | [], n => return ([], n)
  | a :: as, n => do
    let (r, n) ← resolveArgument o c a n
    let (rs, n) ← resolveArguments o c as n
    return (r :: rs, n)

def resolveResult (o : Overrides) (c : Catalog) (r : Routine) (n : Needs) :
    Journaled (ResultShape × Needs) :=
  if r.hasResult then do
    let (t, n) ← resolveType o c r.result n
    return (.ofResolved r.result t, n)
  else return (.none, n)

/-- Resolves the arguments in order and then the result. -/
def resolveRoutine (o : Overrides) (c : Catalog) (r : Routine) (n : Needs) :
    Journaled (ResolvedRoutine × Needs) := do
  let (arguments, n) ← resolveArguments o c r.arguments n
  let (result, n) ← resolveResult o c r n
  return ({ routine := r, arguments, result }, n)

end RoutineBindings
