import RoutineBindings.Catalog.Basic
import RoutineBindings.Go.Enum
import RoutineBindings.Go.Names
import RoutineBindings.Text.NameTable

/-!
# Resolving types

A database type becomes a Go type by the first rule that applies to its base: the caller's
own table, the built-in types, the enums of the catalog, and last the name itself. What a
resolution needs from the file, an import or an enum declaration, is gathered in the needs.
-/
namespace RoutineBindings
open Text

/-- The caller's tables. -/
structure Overrides where
  /-- Go types for database types. -/
  types : NameTable
  /-- Import paths for Go types. -/
  imports : NameTable
  deriving Repr, DecidableEq

/-- The import path of a Go type, looked up without its pointer marker; the caller's table
comes first. -/
def Overrides.importFor (o : Overrides) (type : String) : Option String :=
  (o.imports.get? (Go.pointee type)).or (Go.typePackage? (Go.pointee type))

/-- What a generated file needs besides its wrappers. -/
structure Needs where
  imports : Go.ImportSet
  enums : Go.EnumRegistry
  deriving Repr, DecidableEq

def Needs.empty : Needs := ⟨.empty, .empty⟩

/-- Adds the import of a Go type, if it has one. -/
def Needs.importing (n : Needs) (o : Overrides) (type : String) : Needs :=
  match o.importFor type with
  | some path => { n with imports := n.imports.require path }
  | none => n

/-- The rule that decided about a type. -/
inductive Strategy where
  | override | builtin | catalogEnum | passthrough
  deriving Repr, DecidableEq

structure ResolvedType where
  goType : String
  strategy : Strategy
  deriving Repr, DecidableEq

inductive EnumLookup where
  | found (labels : List String)
  | empty
  | failed (error : DatabaseError)
  deriving Repr, DecidableEq

/-- Asks the catalog for the labels of a type. -/
def lookupEnum (c : Catalog) (d : Descriptor) : Journaled EnumLookup := do
  let (schema, name) := d.qualified
  match ← c.askEnumLabels schema name with
  | .ok [] => return .empty
  | .ok labels => return .found labels
  | .error e => return .failed e

/-- Resolves a type that neither table knows. -/
def resolveByCatalog (c : Catalog) (d : Descriptor) (n : Needs) :
    Journaled (ResolvedType × Needs) := do
  match ← lookupEnum c d with
  | .found labels =>
    match n.enums.register ⟨d.base, labels⟩ with
    | (some goName, enums) => return (⟨goName, .catalogEnum⟩, { n with enums })
    | (none, _) => return (⟨d.base, .passthrough⟩, n)
  | .empty => return (⟨d.base, .passthrough⟩, n)
  | .failed e =>
    Journaled.warn (.enumLookupFailed d.base e)
    return (⟨d.base, .passthrough⟩, n)

/-- Resolves the base of a descriptor. -/
def resolveBase (o : Overrides) (c : Catalog) (d : Descriptor) (n : Needs) :
    Journaled (ResolvedType × Needs) :=
  match o.types.get? d.base with
  | some type => return (⟨type, .override⟩, n.importing o type)
  | none =>
    match Go.builtinType? d.base with
    | some type => return (⟨type, .builtin⟩, n.importing o type)
    | none => resolveByCatalog c d n

/-- Resolves a type as the catalog spells it. Resolution never fails. -/
def resolveType (o : Overrides) (c : Catalog) (text : String) (n : Needs) :
    Journaled (ResolvedType × Needs) := do
  let d := Descriptor.ofText text
  let (t, n) ← resolveBase o c d n
  return ({ t with goType := d.wrap t.goType }, n)

end RoutineBindings
