import RoutineBindings.Catalog.Server
import RoutineBindings.Command.Project
import RoutineBindings.Formatter
import RoutineBindings.Settings.Connection

/-!
# Running a command

An invocation is carried out on a system: its files, its programs, its environment and the
database servers it can reach.
-/
namespace RoutineBindings

structure System (m : Type → Type) where
  /-- The directory that relative paths start from. -/
  directory : String
  environment : Environment
  files : Files m
  programs : Programs m
  /-- Connects to a server, or says why it cannot. -/
  connect : ConnectionTarget → m (Except String Server)
  /-- Whether the output can show colors. -/
  color : Bool

inductive CommandError where
  | init (error : InitError)
  | project (error : ProjectError)
  | connection (error : DatabaseError)
  | generation (error : GenerateError)
  deriving Repr, DecidableEq

/-- A failure in words, from its context inwards. -/
def CommandError.chain : CommandError → List String
  | .init e => e.chain
  | .project e => e.chain
  | .connection e => ["Failed to connect to database", e.message]
  | .generation e => ["Failed to generate Go wrappers", e.message]

def CommandError.message (e : CommandError) : String := Text.joined ": " e.chain

variable {m : Type → Type} [Monad m]

/-- The actions on generated files with a formatter. -/
def System.workbench (s : System m) (formatter : List String) : Workbench m where
  write path source := s.files.writeSource path source
  format path := s.programs.format formatter path

namespace System

def connectTo (s : System m) (t : ConnectionTarget) : m (Except DatabaseError Server) := do
  return (← s.connect t).mapError fun cause =>
    .connection ("Failed to connect to database '" ++ t.database ++ "'") cause

/-- Generates the wrappers of a project. -/
def generate (s : System m) (p : Project) (g : GenerateArguments) :
    m (Journaled (Except CommandError GenerationReport)) := do
  match ← s.connectTo (p.settings.database.target s.environment) with
  | .error e => return ⟨.error (.connection e), []⟩
  | .ok server =>
    let workbench := s.workbench p.settings.formatter
    let made ← RoutineBindings.generate server.catalog workbench (p.request g)
    return ⟨made.value.mapError .generation, made.events⟩

/-- Carries out an invocation and answers what is to be printed. -/
def run (s : System m) (i : Invocation) : m (Journaled (Except CommandError String)) := do
  let config := i.config.map (Path.join s.directory)
  match i.command with
  | .init force =>
    let path := config.getD (settingsFile s.directory)
    match ← createSettings s.files path force with
    | .error e => return ⟨.error (.init e), []⟩
    | .ok message =>
      return ⟨.ok (i.format.render (.object [("message", .text message)]) message), []⟩
  | .generate g =>
    match ← Project.load s.files s.directory config with
    | .error e => return ⟨.error (.project e), []⟩
    | .ok project =>
      let made ← s.generate project g
      let color := s.color && !i.noColor
      return ⟨made.value.map (·.render i.format color), made.events⟩

end System
end RoutineBindings
