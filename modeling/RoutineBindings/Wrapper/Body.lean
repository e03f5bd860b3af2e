import RoutineBindings.Go.Syntax
import RoutineBindings.Text.Cut
import RoutineBindings.Wrapper.Resolved

/-!
# Bodies of generated functions

A wrapper gets its connection, calls the routine with one positional parameter per argument
and reads the result in the way its shape asks for: not at all, as a single value, or row by
row. Every failure is returned together with the zero value of the result.

A slice of identifiers is passed to the database as the text of an array literal. Unless the
options name a function for this, the generated file declares its own: it writes `NULL` for
no identifiers, and otherwise the identifiers in double quotes with commas between them,
inside braces.
-/
namespace RoutineBindings.ArrayLiteral
open Go

def inlineName : String := "uuidSliceToPgString"

/-- The package of the string builder that the inline function uses. -/
def builderPackage : String := "strings"

/-- `b.WriteString(value)` -/
def append (value : Expr) : Stmt := .expr (.method (.name "b") "WriteString" [value])

def quotedIdentifier : Expr :=
  .binary (.binary (.text "\"") "+" (.method (.name "id") "String" [])) "+" (.text "\"")

def inlineBody : List Stmt :=
  [.branch (.binary (.call "len" [.name "ids"]) "==" (.name "0")) [.ret [.text "NULL"]],
   .declare "b" "strings.Builder",
   append (.text "\x7b"),
   .range "i" (some "id") (.name "ids")
     [.branch (.binary (.name "i") ">" (.name "0")) [append (.text ",")],
      append quotedIdentifier],
   append (.text "\x7d"),
   .ret [.method (.name "b") "String" []]]

/-- The declaration of the inline function. -/
def inlineDecl : Decl :=
  .func
    { doc := [inlineName ++ " formats ids as a PostgreSQL array literal"]
      receiver := none
      name := inlineName
      params := [⟨"ids", identifierSlice⟩]
      results := .unnamed ["string"]
      body := inlineBody }

end RoutineBindings.ArrayLiteral

namespace RoutineBindings.Wrapper
open Go

/-- The positional parameters `$k`, `$(k+1)`, … of a call. -/
def placeholdersFrom (k : Nat) : Nat → List String
  | 0 => []
  | n + 1 => ("$" ++ toString k) :: placeholdersFrom (k + 1) n

def placeholders (n : Nat) : String := Text.joined ", " (placeholdersFrom 1 n)

/-- The statement that calls the routine; a whole row is selected column by column. -/
def query (r : Routine) (argumentCount : Nat) (structScan : Bool) : String :=
  (if structScan then "SELECT * FROM " else "SELECT ") ++ r.qualifiedName
    ++ "(" ++ placeholders argumentCount ++ ")"

/-- The function that formats slices of identifiers. -/
def arrayFunction (o : WrapperOptions) : String :=
  match o.arrayHelper with
  | some helper => helper.function
  | none => ArrayLiteral.inlineName

/-- What is passed for an argument. -/
def passed (o : WrapperOptions) (a : ResolvedArgument) : Expr :=
  if a.isIdentifierSlice then .call (arrayFunction o) [.name a.goName] else .name a.goName

/-- The arguments of the query call: the statement and what is passed for its parameters. -/
def queryArguments (o : WrapperOptions) (r : ResolvedRoutine) : List Expr :=
  .text (query r.routine r.arguments.length r.result.structScan) :: r.arguments.map (passed o)

/-- What stands for the result when a step failed. -/
def zero (goType : String) : Expr := .name ((zeroValue? goType).getD "result")

/-- The values returned when a step failed. -/
def failure (shape : ResultShape) : List Expr :=
  match shape.goType? with
  | some goType => [zero goType, .name "err"]
  | none => [.name "err"]

def usesAccessor (o : WrapperOptions) : Bool := o.connection = .accessor

/-- Gets the connection, unless it is a parameter. -/
def connect (o : WrapperOptions) (shape : ResultShape) : List Stmt :=
  if usesAccessor o then
    [.define ["db", "err"] (.call o.dbAccessor []), .returnOnError (failure shape)]
  else []

def onDb (method : String) (arguments : List Expr) : Expr :=
  .method (.name "db") method arguments

/-- Runs a statement whose result does not count. The error is already declared where the
connection came from the accessor. -/
def execute (o : WrapperOptions) (arguments : List Expr) : List Stmt :=
  [if usesAccessor o then .assign ["_", "err"] (onDb "Exec" arguments)
   else .define ["_", "err"] (onDb "Exec" arguments),
   .ret [.name "err"]]

/-- Reads one row: into a new structure, or its single column into the result. -/
def readSingle (goType : String) (structScan : Bool) (arguments : List Expr)
    (failure : List Expr) : List Stmt :=
  (if structScan then
    [.assign ["result"] (.call "new" [.name (pointee goType)]),
     .assign ["err"]
       (.method (onDb "QueryRowx" arguments) "StructScan" [.name "result"])]
   else
    [.assign ["err"]
       (.method (onDb "QueryRow" arguments) "Scan" [.address (.name "result")])])
    ++ [.returnOnError failure, .ret [.name "result", .name "nil"]]

/-- Declares the variable for a row and decodes the row into it. -/
def readRow (element : String) (structScan : Bool) : List Stmt :=
  if isPointer element then
    [.define ["value"] (.call "new" [.name (pointee element)]),
     .assign ["err"] (.method (.name "rows") "StructScan" [.name "value"])]
  else
    [.declare "value" element,
     .assign ["err"] (.method (.name "rows") (if structScan then "StructScan" else "Scan")
       [.address (.name "value")])]

/-- Reads all rows and appends each to the result. -/
def readRows (goType element : String) (structScan : Bool) (arguments : List Expr)
    (failure : List Expr) : List Stmt :=
  [.define ["rows", "err"] (onDb (if structScan then "Queryx" else "Query") arguments),
   .returnOnError failure,
   .defer (.method (.name "rows") "Close" []),
   .loop (.method (.name "rows") "Next" [])
     (readRow element structScan ++
       [.returnOnError failure,
        .assign ["result"] (.call "append" [.name "result", .name "value"])]),
   .branch (.binary (.method (.name "rows") "Err" []) "!=" (.name "nil"))
     [.ret [zero goType, .method (.name "rows") "Err" []]],
   .ret [.name "result", .name "nil"]]

/-- Calls the routine and reads its result. -/
def callAndRead (o : WrapperOptions) (r : ResolvedRoutine) : List Stmt :=
  match r.result with
  | .none => execute o (queryArguments o r)
  | .single goType structScan =>
    readSingle goType structScan (queryArguments o r) (failure r.result)
  | .rows goType element structScan =>
    readRows goType element structScan (queryArguments o r) (failure r.result)

def body (o : WrapperOptions) (r : ResolvedRoutine) : List Stmt :=
  connect o r.result ++ callAndRead o r

end RoutineBindings.Wrapper
