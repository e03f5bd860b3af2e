import RoutineBindings.Error
import RoutineBindings.Go.Names
import RoutineBindings.Text.Blank
import RoutineBindings.Text.Character
import RoutineBindings.Text.Cut

/-!
# Routines

The signature of a stored routine as the catalog describes it, and how its parts are spelled. The
order of the arguments is the order of the positional parameters of a call.

A collection type is its base type with a mark: `[]` after it for an array or `SETOF` before it
for a set. Exactly one mark is taken off, the array mark first.

A routine is requested as `name` or `schema.name`, where both parts are plain identifiers. A
name without a schema is looked up in the schema `public`.

The arguments of a routine are one text: `name type` for each argument, with an optional default,
separated by commas. A comma inside parentheses belongs to a type.
-/
namespace RoutineBindings
open Text

inductive Collection where
  | array | setOf
  deriving Repr, DecidableEq

structure Descriptor where
  base : String
  collection : Option Collection
  deriving Repr, DecidableEq

namespace Descriptor

def arrayMark : String := "[]"

def setMark : String := "SETOF "

def ofText (text : String) : Descriptor :=
  match beforeEnd arrayMark.toList text.toList with
  | some base => ⟨String.ofList base, some .array⟩
  | none =>
    match afterStart setMark.toList text.toList with
    | some base => ⟨String.ofList base, some .setOf⟩
    | none => ⟨text, none⟩

def isCollection (d : Descriptor) : Bool := d.collection.isSome

def isSet (d : Descriptor) : Bool := d.collection = some .setOf

/-- The Go type of the whole, given that of the base: collections are slices. -/
def wrap (d : Descriptor) (host : String) : String :=
  if d.isCollection then "[]" ++ host else host

/-- The schema, if there is one, and the name of the base type; the last dot separates. -/
def qualified (d : Descriptor) : Option String × String :=
  match cutAtLast '.' d.base.toList with
  | some (schema, name) => (some (String.ofList schema), String.ofList name)
  | none => (none, d.base)

end Descriptor

inductive RoutineKind where
  | normal | aggregate | window | trigger | procedure
  deriving Repr, DecidableEq

namespace RoutineKind

/-- Reads the kind that the catalog states; what it does not know is a normal routine. -/
def ofText : String → RoutineKind
  | "agg" | "aggregate" => .aggregate
  | "window" => .window
  | "trigger" => .trigger
  | "procedure" => .procedure
  | _ => .normal

def text : RoutineKind → String
  | .normal => "normal"
  | .aggregate => "aggregate"
  | .window => "window"
  | .trigger => "trigger"
  | .procedure => "procedure"

end RoutineKind

structure Argument where
  name : String
  /-- The type as the catalog spells it. -/
  type : String
  deriving Repr, DecidableEq

structure Routine where
  schema : String
  name : String
  kind : RoutineKind
  arguments : List Argument
  /-- The result type as the catalog spells it, empty when nothing is returned. -/
  result : String
  description : Option String
  deriving Repr, DecidableEq

namespace Routine

def hasResult (r : Routine) : Bool := !r.result.isEmpty

def qualifiedName (r : Routine) : String := r.schema ++ "." ++ r.name

def goName (r : Routine) : String := Go.exportedName r.name

end Routine
end RoutineBindings

namespace RoutineBindings.RoutineName
open Text

def defaultSchema : String := "public"

def isInitial (c : Char) : Bool := isAsciiUpper c || isAsciiLower c || c = '_'

def isFollowing (c : Char) : Bool := isInitial c || isAsciiDigit c || c = '$'

def isIdentifier : List Char → Bool
  | [] => false
  | c :: s => isInitial c && s.all isFollowing

/-- Whether a text is one identifier, or two with a dot between them. -/
def isAccepted (name : List Char) : Bool :=
  match cutAt '.' name with
  | none => isIdentifier name
  | some (schema, rest) => isIdentifier schema && isIdentifier rest

def validate (name : String) : Except IntrospectionError Unit :=
  if name.isEmpty then .error (.invalidName name "name is empty")
  else if isAccepted name.toList then .ok ()
  else .error (.invalidName name "expected 'name' or 'schema.name'")

/-- The schema and the name; the schema ends at the first dot. -/
def parts (name : String) : String × String :=
  match cutAt '.' name.toList with
  | some (schema, rest) => (String.ofList schema, String.ofList rest)
  | none => (defaultSchema, name)

end RoutineBindings.RoutineName

namespace RoutineBindings.Signature
open Text

/-- The depth of parentheses after a character. A closing one without its opening one leaves
the depth at zero. -/
def depthAfter (depth : Nat) (c : Char) : Nat :=
  if c = '(' then depth + 1 else if c = ')' then depth - 1 else depth

/-- The pieces between the commas at depth zero, reading on at the given depth. -/
def splitFrom (depth : Nat) : List Char → List (List Char)
  | [] => [[]]
  | c :: s =>
    if c = ',' && depth = 0 then [] :: splitFrom 0 s
    else onto c (splitFrom (depthAfter depth c) s)
where
  onto (c : Char) : List (List Char) → List (List Char)
    | [] => [[c]]
    | p :: ps => (c :: p) :: ps

/-- The pieces between the commas that no parentheses enclose. -/
def split (list : List Char) : List (List Char) := splitFrom 0 list

def defaultMark : List Char := " DEFAULT ".toList

/-- Reads one trimmed piece: the name ends at the first space, the type at its default. -/
def argument (segment : List Char) : Except IntrospectionError Argument :=
  match cutAt ' ' segment with
  | none => .error (.malformedArgument (String.ofList segment))
  | some (name, type) =>
    .ok ⟨String.ofList name, String.ofList (trim (before defaultMark type))⟩

/-- Reads the pieces in order, up to the first one that is malformed. -/
def arguments : List (List Char) → Except IntrospectionError (List Argument)
  | [] => .ok []
  | s :: ss => do
    let a ← argument (trim s)
    let as ← arguments ss
    return a :: as

/-- Reads an argument list. A blank list has no arguments. -/
def parse (list : String) : Except IntrospectionError (List Argument) :=
  if (trim list.toList).isEmpty then .ok [] else arguments (split list.toList)

end RoutineBindings.Signature
