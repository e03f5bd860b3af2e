import RoutineBindings.Command.Run
import RoutineBindings.CommandLine.Basic
import RoutineBindings.CommandLine.Parsing
import RoutineBindings.Shell.Run

/-!
# The program

Carries out a command line on the files of the operating system. The program holds no database
client and starts no processes: every connection is refused, and of formatters only those that
are built in can be run.
-/
namespace RoutineBindings
open Text (Bytes)

def FileFault.ofError : IO.Error → FileFault
  | .noFileOrDirectory .. => .missing
  | .permissionDenied .. => .denied
  | .alreadyExists .. => .present
  | e => .other (toString e)

/-- Performs an action and turns a failure into its fault. -/
def attempt {α : Type} (action : IO α) : IO (Except FileFault α) := do
  try return .ok (← action) catch e => return .error (.ofError e)

/-- The files of the operating system. -/
def systemFiles : Files IO where
  isPresent path := do return (← attempt (IO.FS.Handle.mk path .read)).isOk
  read path := do return (← attempt (IO.FS.readBinFile path)).map ByteArray.toList
  write path content := attempt (IO.FS.writeBinFile path ⟨content.toArray⟩)
  createDirectories path := attempt (IO.FS.createDirAll path)
  remove path := attempt (IO.FS.removeFile path)

/-- The variables of the environment that are looked at. -/
def variableNames : List String :=
  ["PGFUNCGEN_DATABASE_URL", "DB_HOST", "DB_PORT", "DB_DATABASE", "DB_USER", "DB_PASSWORD"]

def readEnvironment : IO Environment := do
  let given ← variableNames.filterMapM fun name => do
    return (← IO.getEnv name).map fun value => (name, value)
  return fun name => given.lookup name

def currentSystem : IO (System IO) := do
  return {
    directory := (← IO.currentDir).toString
    environment := ← readEnvironment
    files := systemFiles
    programs := Shell.programs systemFiles
    connect := fun _ => return .error "there is no database client"
    color := false }

def Warning.line (w : Warning) : String :=
  "WARN " ++ w.message ++ String.join (w.fields.map fun (k, v) => " " ++ k ++ "=" ++ v)

end RoutineBindings

open RoutineBindings in
def main (arguments : List String) : IO UInt32 := do
  match CommandLine.parse arguments with
  | .error e =>
    if e.exitCode = 0 then IO.println e.message else IO.eprintln e.message
    return UInt32.ofNat e.exitCode
  | .ok invocation =>
    let made ← (← currentSystem).run invocation
    for w in warnings made.events do IO.eprintln w.line
    match made.value with
    | .ok output =>
      if !output.isEmpty then IO.println output
      return 0
    | .error e =>
      IO.eprintln ("Error: " ++ e.message)
      return 1
