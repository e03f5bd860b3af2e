import RoutineBindings.Go.Printer
import RoutineBindings.Text.Blank
import RoutineBindings.Text.Character
import RoutineBindings.Text.Cut
import RoutineBindings.Wrapper.Body

/-!
# Declarations of wrappers and their files

A routine gives one function and, if asked for, a structure that describes its arguments. The
comment of the function is the description of the routine, with a small first letter, after the
wrapper's name; names of arguments in it become the names of the parameters. The imports that
these declarations need follow from the options and the argument types.

Wrappers are added to a file one after the other. The finished file declares the enums first,
then the wrappers in the order they were added, and the inline array function last.
-/
namespace RoutineBindings.Wrapper
open Go Text

/-- Replaces the name of each argument in turn. -/
def renameArguments (arguments : List ResolvedArgument) (text : List Char) : List Char :=
  arguments.foldl (fun t a => substitute a.name.toList a.goName.toList t) text

/-- The description as it reads after the wrapper's name. -/
def docText (goName : String) (arguments : List ResolvedArgument) (first : Char)
    (rest : List Char) : List Char :=
  goName.toList ++ ' ' :: renameArguments arguments (lower first ++ rest)

/-- The lines of the comment, without blanks at their ends. -/
def docLines (goName : String) (description : Option String)
    (arguments : List ResolvedArgument) : List String :=
  match description.map String.toList with
  | none | some [] => []
  | some (first :: rest) =>
    (lines (docText goName arguments first rest)).map fun l => String.ofList (trimEnd l)

def argsDefPackage : String := "github.com/ungerik/go-command"

def sqlxPackage : String := "github.com/jmoiron/sqlx"

/-- The variable of a structure type that describes the arguments of a wrapper. -/
def argsDecl (r : ResolvedRoutine) : Decl :=
  let name := r.routine.goName ++ "Args"
  .record [name ++ " defines the arguments for " ++ r.routine.goName] name
    ["command.ArgsDef"]
    (r.arguments.map fun a => ⟨a.exportedName, a.goType, some ("arg:\"" ++ a.goName ++ "\"")⟩)

def connectionParams (o : WrapperOptions) : List Param :=
  if usesAccessor o then [] else [⟨"db", "*sqlx.DB"⟩]

def params (o : WrapperOptions) (r : ResolvedRoutine) : List Param :=
  connectionParams o ++ r.arguments.map fun a => ⟨a.goName, a.goType⟩

def results (shape : ResultShape) : Results :=
  match shape.goType? with
  | some goType => .named [⟨"result", goType⟩, ⟨"err", "error"⟩]
  | none => .unnamed ["error"]

def funcDecl (o : WrapperOptions) (r : ResolvedRoutine) : FuncDecl :=
  { doc := docLines r.routine.goName r.routine.description r.arguments
    receiver := none
    name := r.routine.goName
    params := params o r
    results := results r.result
    body := body o r }

/-- The declarations that a routine adds to the file. -/
def decls (o : WrapperOptions) (r : ResolvedRoutine) : List Decl :=
  (if o.argsDef then [argsDecl r] else []) ++ [.func (funcDecl o r)]

def passesIdentifierSlice (r : ResolvedRoutine) : Bool :=
  r.arguments.any ResolvedArgument.isIdentifierSlice

/-- Whether the declarations call the inline array function. -/
def usesInlineArray (o : WrapperOptions) (r : ResolvedRoutine) : Bool :=
  o.arrayHelper.isNone && passesIdentifierSlice r

/-- The package of the function that formats slices of identifiers. -/
def arrayPackage (o : WrapperOptions) : String :=
  match o.arrayHelper with
  | some helper => helper.importPath
  | none => ArrayLiteral.builderPackage

/-- The imports that the declarations need besides those of their types. -/
def imports (o : WrapperOptions) (r : ResolvedRoutine) : List String :=
  (if o.argsDef then [argsDefPackage] else [])
    ++ (if usesAccessor o then [] else [sqlxPackage])
    ++ (if passesIdentifierSlice r then [arrayPackage o] else [])

/-- The declarations as a piece of source. -/
def render (o : WrapperOptions) (r : ResolvedRoutine) : String :=
  Text.joined "\n" ((decls o r).map Decl.print)

end RoutineBindings.Wrapper

namespace RoutineBindings

structure WrapperFile where
  options : WrapperOptions
  decls : List Go.Decl
  /-- Whether a wrapper that was made for the file calls the inline array function. -/
  inlineArray : Bool

namespace WrapperFile

def new (options : WrapperOptions) : WrapperFile :=
  { options, decls := [], inlineArray := false }

/-- Notes what a wrapper needs, without adding the wrapper itself. -/
def prepare (f : WrapperFile) (r : ResolvedRoutine) (n : Needs) : WrapperFile × Needs :=
  ({ f with inlineArray := f.inlineArray || Wrapper.usesInlineArray f.options r },
   { n with imports := n.imports.requireAll (Wrapper.imports f.options r) })

/-- Adds the wrapper of a routine. -/
def add (f : WrapperFile) (r : ResolvedRoutine) (n : Needs) : WrapperFile × Needs :=
  let (f, n) := f.prepare r n
  ({ f with decls := f.decls ++ Wrapper.decls f.options r }, n)

def finish (f : WrapperFile) (n : Needs) : Go.SourceFile :=
  { package := f.options.package
    imports := n.imports.paths
    decls := n.enums.decls ++ f.decls
      ++ (if f.inlineArray then [ArrayLiteral.inlineDecl] else []) }

def render (f : WrapperFile) (n : Needs) : String := (f.finish n).print

end WrapperFile
end RoutineBindings
