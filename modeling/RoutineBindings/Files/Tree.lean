import RoutineBindings.Files.Basic

/-!
# File trees

A tree of files and directories in memory. A path is followed name by name from the root or
from the current directory; all its names but the last have to be directories.
-/
namespace RoutineBindings
open Text (Bytes)

inductive TreeEntry where
  | directory
  | file (content : Bytes)
  deriving Repr, DecidableEq

/-- A place in a tree: the names from the root to it. -/
abbrev Place := List String

structure FileTree where
  /-- The files and directories below the root; no place occurs twice. -/
  entries : List (Place × TreeEntry)
  deriving Repr, DecidableEq

namespace FileTree

def empty : FileTree := ⟨[]⟩

/-- What is at a place. The root is always there. -/
def get? (t : FileTree) (p : Place) : Option TreeEntry :=
  if p = [] then some .directory else t.entries.lookup p

def put (t : FileTree) (p : Place) (e : TreeEntry) : FileTree :=
  ⟨(p, e) :: t.entries.filter (·.1 ≠ p)⟩

def erase (t : FileTree) (p : Place) : FileTree := ⟨t.entries.filter (·.1 ≠ p)⟩

/-- Follows one name from a directory. -/
def follow (t : FileTree) (p : Place) (name : List Char) : Except FileFault Place :=
  match t.get? p with
  | none => .error .missing
  | some (.file _) => .error .notDirectory
  | some .directory =>
    if name = ['.'] then .ok p
    else if name = ['.', '.'] then .ok p.dropLast
    else
      let name := String.ofList name
      if name.utf8ByteSize > longestName then .error .longName else .ok (p ++ [name])

/-- Where a path leads: a place in a directory that is there, and whether a slash at the end
asks for a directory at the place. -/
def locate (t : FileTree) (current : Place) (path : String) : Except FileFault (Place × Bool) :=
  if path.toList.contains '\x00' then .error .zeroInPath
  else if path.isEmpty then .error .missing
  else if path.utf8ByteSize > longestPath then .error .longName
  else do
    let names := Path.names path.toList
    let origin := if Path.isAbsolute path then [] else current
    let place ← (names.filter (· ≠ [])).foldlM t.follow origin
    return (place, names.getLast? = some [])

/-- What a path leads to. -/
def find (t : FileTree) (current : Place) (path : String) : Except FileFault TreeEntry := do
  let (place, mustBeDirectory) ← t.locate current path
  match t.get? place with
  | none => .error .missing
  | some (.file content) =>
    if mustBeDirectory then .error .notDirectory else .ok (.file content)
  | some .directory => .ok .directory

def read (t : FileTree) (current : Place) (path : String) : Except FileFault Bytes := do
  match ← t.find current path with
  | .file content => .ok content
  | .directory => .error .isDirectory

/-- Gives a file its content. -/
def write (t : FileTree) (current : Place) (path : String) (content : Bytes) :
    Except FileFault FileTree := do
  let (place, mustBeDirectory) ← t.locate current path
  if mustBeDirectory || t.get? place = some .directory then .error .isDirectory
  else .ok (t.put place (.file content))

/-- Makes one directory. -/
def createDirectory (t : FileTree) (current : Place) (path : String) :
    Except FileFault FileTree := do
  let (place, _) ← t.locate current path
  if (t.get? place).isSome then .error .present else .ok (t.put place .directory)

def isDirectory (t : FileTree) (current : Place) (path : String) : Bool :=
  match t.find current path with
  | .ok .directory => true
  | _ => false

/-- Makes a directory unless it is there. -/
def ensureDirectory (t : FileTree) (current : Place) (path : String) :
    Except FileFault FileTree :=
  match t.createDirectory current path with
  | .ok t => .ok t
  | .error e => if t.isDirectory current path then .ok t else .error e

/-- A change that leaves the tree alone when it fails. -/
def change (f : FileTree → Except FileFault FileTree) :
    StateM FileTree (Except FileFault Unit) := fun t =>
  match f t with
  | .ok t => (.ok (), t)
  | .error e => (.error e, t)

/-- Makes a directory, and before it those above it when they are missing. -/
def createDirectoriesFrom (current : Place) : Nat → String →
    StateM FileTree (Except FileFault Unit)
  | 0, _ => return .error .missing
  | fuel + 1, path => do
    if path.isEmpty then return .ok ()
    match ← change (·.ensureDirectory current path), Path.parent? path with
    | .error .missing, some parent =>
      match ← createDirectoriesFrom current fuel parent with
      | .ok () => change (·.ensureDirectory current path)
      | .error e => return .error e
    | result, _ => return result

def createDirectories (current : Place) (path : String) :
    StateM FileTree (Except FileFault Unit) :=
  createDirectoriesFrom current (path.length + 1) path

def remove (t : FileTree) (current : Place) (path : String) : Except FileFault FileTree := do
  let (place, _) ← t.locate current path
  match ← t.find current path with
  | .file _ => .ok (t.erase place)
  | .directory => .error .isDirectory

/-- The part of a place below another. -/
def below? : Place → Place → Option Place
  | [], p => some p
  | _ :: _, [] => none
  | a :: as, b :: bs => if a = b then below? as bs else none

/-- The paths of everything below a place in ascending order, directories with a slash at the
end. -/
def list (t : FileTree) (top : Place) : List String :=
  let path : Place × TreeEntry → Option String := fun (p, e) =>
    match below? top p with
    | none | some [] => none
    | some names =>
      let path := Text.joined "/" names
      some (if e = .directory then path ++ "/" else path)
  (t.entries.filterMap path).mergeSort (· ≤ ·)

/-- The actions on the files of a tree, seen from a directory. -/
def files (current : Place) : Files (StateM FileTree) where
  isPresent path := fun t => ((t.find current path).isOk, t)
  read path := fun t => (t.read current path, t)
  write path content := change (·.write current path content)
  createDirectories := createDirectories current
  remove path := change (·.remove current path)

end FileTree
end RoutineBindings
