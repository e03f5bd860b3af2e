import RoutineBindings.Report

/-!
# Command line

What a user can ask for, what can be wrong with the way it is asked, and what is printed when the
command line is no invocation.
-/
namespace RoutineBindings

/-- What is asked of the generate command. Whatever is given here comes before the settings. -/
structure GenerateArguments where
  routines : List String
  output : Option String
  package : Option String
  argsDef : Bool
  dryRun : Bool
  deriving Repr, DecidableEq

inductive Command where
  /-- Writes a first settings file. -/
  | init (force : Bool)
  | generate (arguments : GenerateArguments)
  deriving Repr, DecidableEq

structure Invocation where
  /-- The settings file. -/
  config : Option String
  verbose : Bool
  noColor : Bool
  format : OutputFormat
  command : Command
  deriving Repr, DecidableEq

/-- Why a command line is no invocation. -/
inductive UsageError where
  | unknownArgument
  | unknownCommand
  | invalidValue
  /-- An option is given twice. -/
  | repeatedOption
  /-- A flag is given a value. -/
  | unexpectedValue
  | missingCommand
  /-- Nothing was asked for at all. -/
  | nothingGiven
  | helpWanted
  | versionWanted
  deriving Repr, DecidableEq

/-- Asking for help or for the version is no failure. -/
def UsageError.exitCode : UsageError → Nat
  | .helpWanted | .versionWanted => 0
  | _ => 2

namespace CommandLine

def programName : String := "pgfuncgen"

def programVersion : String := "0.1.0"

def helpLines : List String :=
  [ "Generate Go wrappers for PostgreSQL stored functions",
    "",
    "Usage: " ++ programName ++ " [OPTIONS] <COMMAND>",
    "",
    "Commands:",
    "  init      Create a starter configuration file",
    "  generate  Generate Go wrappers for stored functions",
    "  help      Print this message",
    "",
    "Options:",
    "  -c, --config <FILE>    Path to configuration file",
    "  -v, --verbose          Enable verbose output",
    "      --no-color         Disable colored output",
    "      --format <FORMAT>  Output format: text or json",
    "  -h, --help             Print help",
    "  -V, --version          Print version",
    "",
    "Options of init:",
    "  -f, --force            Overwrite an existing config file",
    "",
    "Options of generate:",
    "      [FUNCTION]...      Functions to generate; replaces the configured list",
    "  -o, --output <FILE>    Output Go file",
    "  -p, --package <NAME>   Go package name",
    "      --args-def         Emit a command.ArgsDef struct per function",
    "      --dry-run          Print the generated source without writing it" ]

def helpText : String := Text.joined "\n" helpLines

end CommandLine

open CommandLine in
/-- What is printed instead of carrying out an invocation. -/
def UsageError.message : UsageError → String
  | .unknownArgument => "error: unexpected argument"
  | .unknownCommand => "error: unrecognized subcommand"
  | .invalidValue => "error: a value is missing or not possible"
  | .repeatedOption => "error: an option cannot be used multiple times"
  | .unexpectedValue => "error: a flag takes no value"
  | .missingCommand => "error: a subcommand is required"
  | .nothingGiven | .helpWanted => helpText
  | .versionWanted => programName ++ " " ++ programVersion

end RoutineBindings
