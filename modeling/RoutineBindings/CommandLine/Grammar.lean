import RoutineBindings.CommandLine.Basic
import RoutineBindings.Text.Cut

/-!
# Options and arguments

The options that each command understands, and how one argument is written: a long option
with its value after an equals sign, a cluster of short ones, the mark after which no options
follow, or a plain text.
-/
namespace RoutineBindings.CommandLine

/-- What an option takes. -/
inductive OptionKind where
  | flag | path | text | format | help | version
  deriving Repr, DecidableEq

structure OptionRule where
  name : String
  short : Option Char
  kind : OptionKind
  deriving Repr, DecidableEq

namespace OptionRule

def config : OptionRule := ⟨"config", some 'c', .path⟩
def verbose : OptionRule := ⟨"verbose", some 'v', .flag⟩
def noColor : OptionRule := ⟨"no-color", none, .flag⟩
def format : OptionRule := ⟨"format", none, .format⟩
def help : OptionRule := ⟨"help", some 'h', .help⟩
def version : OptionRule := ⟨"version", some 'V', .version⟩
def force : OptionRule := ⟨"force", some 'f', .flag⟩
def output : OptionRule := ⟨"output", some 'o', .path⟩
def package : OptionRule := ⟨"package", some 'p', .text⟩
def argsDef : OptionRule := ⟨"args-def", none, .flag⟩
def dryRun : OptionRule := ⟨"dry-run", none, .flag⟩

/-- The options that every command understands. -/
def common : List OptionRule := [config, verbose, noColor, format, help, version]

def takesValue (o : OptionRule) : Bool :=
  match o.kind with
  | .path | .text | .format => true
  | _ => false

/-- Whether a text is a value of the option. A path is not empty. -/
def accepts (o : OptionRule) (value : String) : Bool :=
  match o.kind with
  | .path => !value.isEmpty
  | .format => (OutputFormat.ofText? value).isSome
  | _ => true

end OptionRule

inductive CommandName where
  | init | generate
  deriving Repr, DecidableEq

namespace CommandName

def ofText? : String → Option CommandName
  | "init" => some .init
  | "generate" => some .generate
  | _ => none

end CommandName

/-- What is understood where arguments stand. -/
structure Scope where
  options : List OptionRule
  /-- Whether commands are named here. -/
  hasCommands : Bool
  /-- Whether plain texts are routines. -/
  hasRoutines : Bool
  deriving Repr, DecidableEq

namespace Scope

/-- In front of the command. -/
def outer : Scope := ⟨OptionRule.common, true, false⟩

/-- After the command. -/
def ofCommand : CommandName → Scope
  | .init => ⟨.force :: OptionRule.common, false, false⟩
  | .generate =>
    ⟨[.output, .package, .argsDef, .dryRun] ++ OptionRule.common, false, true⟩

def long? (s : Scope) (name : String) : Option OptionRule := s.options.find? (·.name = name)

def short? (s : Scope) (c : Char) : Option OptionRule := s.options.find? (·.short = some c)

end Scope

/-- How an argument is written. -/
inductive Argument where
  /-- Two dashes, after which no options follow. -/
  | separator
  | long (name : String) (value : Option String)
  | shorts (cluster : List Char)
  | plain (text : String)
  deriving Repr, DecidableEq

/-- A single dash is a plain text. -/
def Argument.ofText (s : String) : Argument :=
  match s.toList with
  | ['-', '-'] => .separator
  | '-' :: '-' :: cs =>
    match Text.cutAt '=' cs with
    | some (name, value) => .long (String.ofList name) (some (String.ofList value))
    | none => .long (String.ofList cs) none
  | '-' :: c :: cs => .shorts (c :: cs)
  | _ => .plain s

end RoutineBindings.CommandLine
