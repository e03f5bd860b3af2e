import RoutineBindings.Catalog.Routine

/-!
# Catalogs and their journal

A catalog answers two questions: which routines have a name in a schema, and which labels an
enum type has. Either may fail. A generation run asks the catalog and may warn. `Journaled α` is a
result together with what happened on the way, oldest first, so that the order of lookups and
warnings can be stated.
-/
namespace RoutineBindings

inductive Warning where
  /-- Several routines have the name; only the first is used. -/
  | overloaded (routine : String) (overloads : Nat)
  /-- The routine is no plain function. -/
  | notNormal (routine : String) (kind : RoutineKind)
  /-- The labels of a type could not be read. -/
  | enumLookupFailed (type : String) (error : DatabaseError)
  deriving Repr, DecidableEq

namespace Warning

def message : Warning → String
  | .overloaded .. => "Function is overloaded, using the first signature"
  | .notNormal .. => "Generating wrapper for non-normal routine"
  | .enumLookupFailed .. => "Enum lookup failed, passing the type name through"

/-- The particulars of a warning, each under its name. -/
def fields : Warning → List (String × String)
  | .overloaded routine n => [("function", routine), ("overloads", toString n)]
  | .notNormal routine kind => [("function", routine), ("kind", kind.text)]
  | .enumLookupFailed type e => [("type_name", type), ("error", e.message)]

end Warning

inductive Event where
  | routineLookup (schema name : String)
  | enumLookup (schema : Option String) (name : String)
  | warned (warning : Warning)
  deriving Repr, DecidableEq

structure Journaled (α : Type) where
  value : α
  events : List Event

namespace Journaled

def note (e : Event) : Journaled Unit := ⟨(), [e]⟩

def warn (w : Warning) : Journaled Unit := note (.warned w)

instance : Monad Journaled where
  pure a := ⟨a, []⟩
  bind x f := ⟨(f x.value).value, x.events ++ (f x.value).events⟩

@[simp] theorem value_pure {α : Type} (a : α) : (pure a : Journaled α).value = a := rfl

@[simp] theorem events_pure {α : Type} (a : α) : (pure a : Journaled α).events = [] := rfl

@[simp] theorem value_bind {α β : Type} (x : Journaled α) (f : α → Journaled β) :
    (x >>= f).value = (f x.value).value := rfl

@[simp] theorem events_bind {α β : Type} (x : Journaled α) (f : α → Journaled β) :
    (x >>= f).events = x.events ++ (f x.value).events := rfl

@[simp] theorem value_note (e : Event) : (note e).value = () := rfl

@[simp] theorem value_warn (w : Warning) : (warn w).value = () := rfl

@[simp] theorem events_note (e : Event) : (note e).events = [e] := rfl

@[simp] theorem events_warn (w : Warning) : (warn w).events = [.warned w] := rfl

theorem eq_mk {α : Type} {x : Journaled α} {a : α} {events : List Event} (hv : x.value = a)
    (he : x.events = events) : x = ⟨a, events⟩ := by
  subst hv he
  rfl

end Journaled

namespace Event

def routineLookup? : Event → Option (String × String)
  | .routineLookup schema name => some (schema, name)
  | _ => none

def enumLookup? : Event → Option (Option String × String)
  | .enumLookup schema name => some (schema, name)
  | _ => none

def warning? : Event → Option Warning
  | .warned w => some w
  | _ => none

end Event

def routineLookups (events : List Event) : List (String × String) :=
  events.filterMap Event.routineLookup?

def enumLookups (events : List Event) : List (Option String × String) :=
  events.filterMap Event.enumLookup?

def warnings (events : List Event) : List Warning := events.filterMap Event.warning?


/-- One routine as the catalog reports it. -/
structure RoutineRow where
  arguments : String
  result : String
  kind : String
  description : Option String
  deriving Repr, DecidableEq

structure Catalog where
  routines : String → String → Except DatabaseError (List RoutineRow)
  /-- The labels in their order; a type that is no enum has none. -/
  enumLabels : Option String → String → Except DatabaseError (List String)

namespace Catalog

def askRoutines (c : Catalog) (schema name : String) :
    Journaled (Except DatabaseError (List RoutineRow)) := do
  Journaled.note (.routineLookup schema name)
  return c.routines schema name

def askEnumLabels (c : Catalog) (schema : Option String) (name : String) :
    Journaled (Except DatabaseError (List String)) := do
  Journaled.note (.enumLookup schema name)
  return c.enumLabels schema name

end Catalog
end RoutineBindings
