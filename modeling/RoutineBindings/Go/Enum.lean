import RoutineBindings.Go.Names
import RoutineBindings.Go.Syntax

/-!
# Enum types

An enum of the database becomes a named string type with one constant per label and a method
that tells whether a value is one of them. The registry holds the enums that a file needs,
one per name, in ascending order of name.
-/
namespace RoutineBindings.Go
open Text (cutAtLast)

structure Enum where
  /-- The name in the database, with its schema if it was written with one. -/
  name : String
  labels : List String
  deriving Repr, DecidableEq

namespace Enum

/-- The Go name comes from the part of the name after the last dot. -/
def goName (e : Enum) : String :=
  match cutAtLast '.' e.name.toList with
  | some (_, last) => exportedName (String.ofList last)
  | none => exportedName e.name

/-- The constants with their labels, in the order of the labels. -/
def consts (e : Enum) : List (String × String) :=
  e.labels.map fun label => (e.goName ++ exportedName label, label)

def typeDecl (e : Enum) : Decl := .type [] e.goName "string"

def constDecl (e : Enum) : Decl :=
  .const (e.consts.map fun (name, label) => ⟨name, e.goName, .text label⟩)

/-- The method `Valid`: one case that lists every constant. -/
def validDecl (e : Enum) : Decl :=
  .func
    { doc := ["Valid indicates if c is a valid " ++ e.goName]
      receiver := some ⟨"c", e.goName⟩
      name := "Valid"
      params := []
      results := .unnamed ["bool"]
      body :=
        [.choose (.name "c")
          [.mk (e.consts.map fun (name, _) => .name name) [.ret [.name "true"]]],
         .ret [.name "false"]] }

def decls (e : Enum) : List Decl := [e.typeDecl, e.constDecl, e.validDecl]

end Enum

/-- Puts an enum at its place in a list in ascending order of name; an enum of the same name
gives way. -/
def insertEnum (e : Enum) : List Enum → List Enum
  | [] => [e]
  | x :: xs =>
    if e.name < x.name then e :: x :: xs
    else if e.name = x.name then e :: xs
    else x :: insertEnum e xs

structure EnumRegistry where
  entries : List Enum
  deriving Repr, DecidableEq

namespace EnumRegistry

def empty : EnumRegistry := ⟨[]⟩

/-- Records an enum under its name and gives its Go name. An enum without labels is not
recorded. -/
def register (r : EnumRegistry) (e : Enum) : Option String × EnumRegistry :=
  if e.labels.isEmpty then (none, r)
  else (some e.goName, ⟨insertEnum e r.entries⟩)

def get? (r : EnumRegistry) (name : String) : Option Enum :=
  r.entries.find? (·.name = name)

def size (r : EnumRegistry) : Nat := r.entries.length

def isEmpty (r : EnumRegistry) : Bool := r.entries.isEmpty

/-- The entries in ascending order of name. -/
def sorted (r : EnumRegistry) : List Enum := r.entries

def decls (r : EnumRegistry) : List Decl := r.sorted.flatMap Enum.decls

end EnumRegistry
end RoutineBindings.Go
