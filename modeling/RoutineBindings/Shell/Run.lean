import RoutineBindings.Shell.Builtin

/-!
# Running scripts

Commands run one after the other. Their output goes to the streams of the script or to files,
and programs that are not built in are not found.
-/
namespace RoutineBindings.Shell
open Text (Bytes encode)

variable {m : Type → Type} [Monad m]

/-- Where the streams of a command go: to a stream of the script, into a file or nowhere. -/
inductive Target where
  | stream (s : Stream)
  | file (path : String)
  | nowhere
  deriving Repr, DecidableEq

structure Targets where
  out : Target
  err : Target
  deriving Repr, DecidableEq

def Targets.get (t : Targets) : Stream → Target
  | .out => t.out
  | .err => t.err

def Targets.set (t : Targets) (s : Stream) (target : Target) : Targets :=
  match s with
  | .out => { t with out := target }
  | .err => { t with err := target }

/-- Why a file cannot be written to. -/
def refusal (path : String) (e : FileFault) : String :=
  "cannot create " ++ path ++ ": " ++ match e with
    | .missing => "Directory nonexistent"
    | e => reason e

/-- Sets up redirections from left to right. A file that is not appended to is emptied. -/
def redirect (f : Files m) (t : Targets) : List (Redirection × String) →
    m (Except String Targets)
  | [] => return .ok t
  | (.toStream s target, _) :: rs => redirect f (t.set s (t.get target)) rs
  | (.toFile s appends, path) :: rs => do
    if path = nullFile then redirect f (t.set s .nowhere) rs
    else
      let kept ← if appends then f.read path else pure (.ok [])
      match ← f.write path (kept.toOption.getD []) with
      | .ok () => redirect f (t.set s (.file path)) rs
      | .error e => return .error (refusal path e)

/-- What the script printed so far. -/
structure Printed where
  stdout : Bytes
  stderr : Bytes
  deriving Repr, DecidableEq

/-- Sends bytes to a target. -/
def send (f : Files m) (t : Target) (bytes : Bytes) (p : Printed) : m Printed := do
  match t with
  | .nowhere => return p
  | .stream .out => return { p with stdout := p.stdout ++ bytes }
  | .stream .err => return { p with stderr := p.stderr ++ bytes }
  | .file path =>
    let kept := (← f.read path).toOption.getD []
    let _ ← f.write path (kept ++ bytes)
    return p

/-- A message of the shell about a line of a script. -/
def complaint (name : String) (line : Nat) (message : String) : String :=
  name ++ ": " ++ toString line ++ ": " ++ message ++ "\n"

/-- Runs the words of a command. -/
def runWords (f : Files m) (complaint : String → String) (last : Nat) (words : List String) :
    m Effect := do
  match control? complaint last words with
  | some e => return e
  | none =>
    match ← builtin f words with
    | some e => return e
    | none => return .complains 127 (complaint (words.headD "" ++ ": not found"))

/-- Runs commands one after the other. -/
def runCommands (f : Files m) (name : String) : List SimpleCommand → Nat → Printed → m Outcome
  | [], last, p => return ⟨.exited last, p.stdout, p.stderr⟩
  | c :: cs, last, p => do
    let wanted := match c.connector with
      | .always => true
      | .onSuccess => last = 0
      | .onFailure => last ≠ 0
    if !wanted || c.isEmpty then runCommands f name cs last p
    else
      let words := c.words.map (wordText last)
      let redirections := c.redirections.map fun (r, file) => (r, wordText last file)
      match ← redirect f ⟨.stream .out, .stream .err⟩ redirections with
      | .error message =>
        let line := encode (complaint name c.line message)
        runCommands f name cs 2 { p with stderr := p.stderr ++ line }
      | .ok targets =>
        let effect ← if words.isEmpty then pure (Effect.quiet 0)
          else runWords f (complaint name c.line) last words
        let p ← send f targets.out effect.stdout p
        let p ← send f targets.err effect.stderr p
        match effect.ending with
        | some status => return ⟨status, p.stdout, p.stderr⟩
        | none => runCommands f name cs effect.code p

/-- Runs a script with its name and arguments. -/
def runScript (f : Files m) (script : String) (ps : Parameters) : m Outcome :=
  runCommands f ps.name (commandsOf script ps) 0 ⟨[], []⟩

/-- Runs the script in a file. -/
def runFile (f : Files m) (path : String) (arguments : List String) : m Outcome := do
  match ← f.read path with
  | .ok bytes => runScript f (Text.decodeLossy bytes) ⟨path, arguments⟩
  | .error _ =>
    return ⟨.exited 2, [], encode (complaint "sh" 0 ("cannot open " ++ path ++ ": No such file"))⟩

/-- The name of a program without the directory of system programs. -/
def systemName (program : String) : String :=
  let afterStart (directory : String) := Text.afterStart directory.toList program.toList
  (((afterStart "/usr/bin/").or (afterStart "/bin/")).map String.ofList).getD program

/-- Why a program that is not built in cannot be run. Files are no programs. -/
def notRunnable (f : Files m) (program : String) : m FileFault := do
  if program.toList.contains '/' then
    match ← f.read program with
    | .error .isDirectory | .ok _ => return .denied
    | .error e => return e
  else if program = "." || program = ".." then return .denied
  else if program.utf8ByteSize > longestName then return .longName
  else return .missing

/-- The names of the shell. -/
def shellNames : List String := ["sh", "dash", "bash"]

/-- Runs the shell on a script or on the file of one. -/
def runShell (f : Files m) : List String → m Outcome
  | "-c" :: script :: name :: arguments => runScript f script ⟨name, arguments⟩
  | path :: arguments => runFile f path arguments
  | [] => return ⟨.exited 0, [], []⟩

/-- The programs that the shell has built in, and the shell itself. -/
def programs (f : Files m) : Programs m where
  run program arguments := do
    if (program :: arguments).any fun s => s.toList.contains '\x00' then
      return .error .zeroArgument
    let name := systemName program
    if shellNames.contains name then return .ok (← runShell f arguments)
    else
      match ← builtin f (name :: arguments) with
      | some e => return .ok ⟨.exited e.code, e.stdout, e.stderr⟩
      | none => return .error (← notRunnable f program)

end RoutineBindings.Shell
