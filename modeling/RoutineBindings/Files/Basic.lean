import RoutineBindings.Error
import RoutineBindings.Text.Cut
import RoutineBindings.Text.Utf8

/-!
# Files and paths

Paths are texts with slashes. Joining and taking the parent leave the names as they are
written; only slashes and dots that change nothing are dropped at the end of a parent.

The actions on files that commands need, in any monad that can perform them, and how they
fail.
-/
namespace RoutineBindings.Path

def isAbsolute (path : String) : Bool := path.toList.head? = some '/'

/-- The path as seen from a directory. An absolute path stays as it is. -/
def join (directory path : String) : String :=
  if isAbsolute path || directory.isEmpty then path
  else if directory.toList.getLast? = some '/' then directory ++ path
  else directory ++ "/" ++ path

/-- The names between slashes; two slashes in a row have an empty one between them. -/
def names : List Char → List (List Char)
  | [] => [[]]
  | c :: cs =>
    if c = '/' then [] :: names cs
    else match names cs with
      | [] => [[c]]
      | n :: ns => (c :: n) :: ns

/-- Whether a name leads nowhere. -/
def isIdle (name : List Char) : Bool := name = [] || name = ['.']

/-- A path as its start, a slash or a dot that stands for itself, and what follows. -/
def start : List Char → List Char × List Char
  | '/' :: cs => (['/'], cs)
  | ['.'] => (['.'], [])
  | '.' :: '/' :: cs => (['.'], '/' :: cs)
  | cs => ([], cs)

/-- The directory of a path. The root and the empty path have none. -/
def parent? (path : String) : Option String :=
  let (first, rest) := start path.toList
  match (names rest).reverse.dropWhile isIdle with
  | [] => if first = ['.'] then some "" else none
  | _ :: above =>
    let kept := (above.dropWhile isIdle).reverse
    some (String.ofList (first ++ (['/'].intercalate kept)))

/-- The directory of a path unless it is the current one. -/
def directory? (path : String) : Option String := (parent? path).filter (!·.isEmpty)

end RoutineBindings.Path

namespace RoutineBindings
open Text (Bytes)

/-- Why an action on a file is refused. -/
inductive FileFault where
  | missing
  | denied
  | present
  | notDirectory
  | isDirectory
  | longName
  | notText
  /-- A zero in a path. -/
  | zeroInPath
  /-- A zero in the name or an argument of a program. -/
  | zeroArgument
  | other (text : String)
  deriving Repr, DecidableEq

def FileFault.message : FileFault → String
  | .missing => "No such file or directory (os error 2)"
  | .denied => "Permission denied (os error 13)"
  | .present => "File exists (os error 17)"
  | .notDirectory => "Not a directory (os error 20)"
  | .isDirectory => "Is a directory (os error 21)"
  | .longName => "File name too long (os error 36)"
  | .notText => "stream did not contain valid UTF-8"
  | .zeroInPath => "file name contained an unexpected NUL byte"
  | .zeroArgument => "nul byte found in provided data"
  | .other text => text

/-- The longest name that a file may have, in bytes. -/
def longestName : Nat := 255

/-- The longest path that can be followed, in bytes. -/
def longestPath : Nat := 4095

structure Files (m : Type → Type) where
  /-- Whether there is a file or directory. -/
  isPresent : String → m Bool
  read : String → m (Except FileFault Bytes)
  /-- Gives a file its content; it is made if it is missing. -/
  write : String → Bytes → m (Except FileFault Unit)
  /-- Makes a directory and those above it that are missing. -/
  createDirectories : String → m (Except FileFault Unit)
  remove : String → m (Except FileFault Unit)

namespace Files
variable {m : Type → Type} [Monad m]

/-- Reads a file that holds text. -/
def readText (f : Files m) (path : String) : m (Except FileFault String) := do
  match ← f.read path with
  | .error e => return .error e
  | .ok bytes =>
    match Text.decode? bytes with
    | some text => return .ok text
    | none => return .error .notText

/-- Makes the directory of a path. A path without one needs none. -/
def createParent (f : Files m) (path : String) : m (Except (String × FileFault) Unit) := do
  match Path.directory? path with
  | none => return .ok ()
  | some directory => return (← f.createDirectories directory).mapError (directory, ·)

/-- Writes a source file and makes its directory first. -/
def writeSource (f : Files m) (path source : String) : m (Except FileError Unit) := do
  match ← f.createParent path with
  | .error (directory, e) => return .error (.createDirectory directory e.message)
  | .ok () =>
    return (← f.write path (Text.encode source)).mapError fun e => .write path e.message

end Files
end RoutineBindings
