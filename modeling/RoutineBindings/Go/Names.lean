import RoutineBindings.Text.Character
import RoutineBindings.Text.Cut

/-!
# Identifiers, types and packages of Go

A database name becomes an exported identifier in upper camel case or an unexported one in
lower camel case. A final word that spells a known acronym is written in capitals. The
parameters of a wrapper must also keep clear of Go's keywords and of the variables that the
body of a wrapper declares.

Types are kept as their Go spelling. Here are the types of the built-in scalar types of
PostgreSQL, the packages that well-known Go types come from, the zero values, and the two markers
that a spelling may start with.

The packages that a generated file needs are kept each once and in ascending order.
-/
namespace RoutineBindings.Go
open Text

/-- Endings in camel case and their spelling as acronyms. -/
def acronyms : List (String × String) :=
  [("Id", "ID"), ("Uuid", "UUID"), ("Json", "JSON"), ("Xml", "XML"),
   ("Jpeg", "JPEG"), ("Jpg", "JPG"), ("Png", "PNG"), ("Svg", "SVG")]

/-- Spells the ending of a name as an acronym; the first entry that fits decides. -/
def spellAcronym (table : List (String × String)) (name : List Char) : List Char :=
  match table with
  | [] => name
  | (ending, acronym) :: rest =>
    match beforeEnd ending.toList name with
    | some stem => stem ++ acronym.toList
    | none => spellAcronym rest name

/-- The exported Go identifier of a database name. -/
def exportedName (name : String) : String :=
  String.ofList (spellAcronym acronyms (upperCamel name.toList))

/-- The unexported Go identifier of a database name. -/
def unexportedName (name : String) : String :=
  String.ofList (spellAcronym acronyms (lowerCamel name.toList))

def keywords : List String :=
  ["break", "case", "chan", "const", "continue", "default", "defer", "else", "fallthrough",
   "for", "func", "go", "goto", "if", "import", "interface", "map", "package", "range",
   "return", "select", "struct", "switch", "type", "var"]

/-- The variables and named results of a wrapper's body. -/
def wrapperLocals : List String := ["db", "err", "result", "rows", "value"]

/-- The parameter that carries an argument. A name that is taken gets the ending `Arg`. -/
def parameterName (argument : String) : String :=
  let name := unexportedName argument
  if wrapperLocals.contains name || keywords.contains name then name ++ "Arg" else name

def builtinTypes : List (String × String) :=
  [("boolean", "bool"), ("bool", "bool"),
   ("text", "string"), ("varchar", "string"), ("character varying", "string"),
   ("character", "string"), ("char", "string"), ("bpchar", "string"), ("name", "string"),
   ("citext", "string"),
   ("float4", "float32"), ("real", "float32"),
   ("float8", "float64"), ("double precision", "float64"),
   ("smallint", "int16"), ("int2", "int16"),
   ("int", "int32"), ("integer", "int32"), ("int4", "int32"),
   ("bigint", "int64"), ("int8", "int64"),
   ("smallserial", "int16"), ("serial", "int32"), ("bigserial", "int64"),
   ("date", "time.Time"), ("timestamp", "time.Time"),
   ("timestamp without time zone", "time.Time"), ("timestamptz", "time.Time"),
   ("timestamp with time zone", "time.Time"),
   ("bytea", "[]byte"), ("json", "json.RawMessage"), ("jsonb", "json.RawMessage"),
   ("uuid", "uuid.UUID")]

/-- The Go type of a built-in scalar type. -/
def builtinType? (name : String) : Option String := builtinTypes.lookup name

/-- The packages of the types that the built-in table uses. -/
def typePackages : List (String × String) :=
  [("time.Time", "time"), ("json.RawMessage", "encoding/json"),
   ("uuid.UUID", "github.com/ungerik/go-uuid")]

def typePackage? (type : String) : Option String := typePackages.lookup type

/-- The rest of a type after a marker at its start. -/
def afterMarker? (marker type : String) : Option String :=
  (afterStart marker.toList type.toList).map String.ofList

def isPointer (type : String) : Bool := (afterMarker? "*" type).isSome

def isSlice (type : String) : Bool := (afterMarker? "[]" type).isSome

/-- The type without one pointer marker. -/
def pointee (type : String) : String := (afterMarker? "*" type).getD type

/-- The type without one slice marker. -/
def element (type : String) : String := (afterMarker? "[]" type).getD type

def scalarZeros : List (String × String) :=
  [("bool", "false"), ("string", "\"\""), ("float32", "0"), ("float64", "0"),
   ("int", "0"), ("int16", "0"), ("int32", "0"), ("int64", "0"),
   ("uint", "0"), ("uint16", "0"), ("uint32", "0"), ("uint64", "0"),
   ("time.Time", "time.Time\x7b\x7d"), ("uuid.UUID", "uuid.Nil"), ("json.RawMessage", "nil")]

/-- How the zero value of a type is written, if it is known. -/
def zeroValue? (type : String) : Option String :=
  if isSlice type || isPointer type then some "nil" else scalarZeros.lookup type


/-- Puts a path at its place in an ascending list, unless it is there already. -/
def insertPath (path : String) : List String → List String
  | [] => [path]
  | p :: ps =>
    if path < p then path :: p :: ps
    else if path = p then p :: ps
    else p :: insertPath path ps

theorem mem_insertPath {q path : String} {ps : List String} :
    q ∈ insertPath path ps ↔ q = path ∨ q ∈ ps := by
  induction ps with
  | nil => simp [insertPath]
  | cons p ps ih =>
    by_cases hlt : path < p
    · simp [insertPath, hlt]
    · by_cases heq : path = p
      · simp [insertPath, heq]
      · simp only [insertPath, hlt, heq, if_false, List.mem_cons, ih]
        exact or_left_comm

structure ImportSet where
  paths : List String
  deriving Repr, DecidableEq

namespace ImportSet

def empty : ImportSet := ⟨[]⟩

def require (s : ImportSet) (path : String) : ImportSet := ⟨insertPath path s.paths⟩

def requireAll (s : ImportSet) (paths : List String) : ImportSet := paths.foldl require s

def contains (s : ImportSet) (path : String) : Bool := s.paths.contains path

theorem contains_require (s : ImportSet) (path q : String) :
    (s.require path).contains q = (q == path || s.contains q) := by
  rw [Bool.eq_iff_iff]
  simp [contains, require, mem_insertPath]

def size (s : ImportSet) : Nat := s.paths.length

def isEmpty (s : ImportSet) : Bool := s.paths.isEmpty

end ImportSet
end RoutineBindings.Go
