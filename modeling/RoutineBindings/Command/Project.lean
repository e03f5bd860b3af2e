import RoutineBindings.Command.Init
import RoutineBindings.CommandLine.Basic
import RoutineBindings.Settings.Reading

/-!
# Projects

A project is a directory with settings. What is asked for on the command line comes before
what the settings say.
-/
namespace RoutineBindings

/-- Why a settings file gives no settings. -/
inductive SettingsFileError where
  | unreadable (path : String) (fault : FileFault)
  | malformed (problem : SettingsProblem)
  | invalid (path : String) (fault : SettingsFault)
  deriving Repr, DecidableEq

/-- What introduces the reason why settings cannot be read. -/
def malformedSettings : String := "Failed to parse config file"

/-- A failure in words, from its context inwards. -/
def SettingsFileError.chain : SettingsFileError → List String
  | .unreadable path e => ["Failed to read config file: " ++ Text.quoted path, e.message]
  | .malformed p => [malformedSettings, p.message]
  | .invalid path fault => ("Invalid config file: " ++ Text.quoted path) :: fault.chain

/-- Why there is no project to work on. -/
inductive ProjectError where
  | noSettings (path : String)
  | settings (error : SettingsFileError)
  deriving Repr, DecidableEq

/-- A failure in words, from its context inwards. -/
def ProjectError.chain : ProjectError → List String
  | .noSettings path => ["Config file not found: " ++ Text.quoted path
      ++ ". Please create one first with the \x60init\x60 command."]
  | .settings e => "Failed to read config file" :: e.chain

structure Project where
  directory : String
  settingsPath : String
  settings : Settings
  deriving Repr, DecidableEq

/-- Valid settings from the text of a file. -/
def Settings.ofFile (path text : String) : Except SettingsFileError Settings := do
  let s ← (Settings.ofText text).mapError .malformed
  s.validate.mapError (.invalid path)
  return s

variable {m : Type → Type} [Monad m]

/-- Reads the settings of a file. -/
def loadSettings (f : Files m) (path : String) : m (Except SettingsFileError Settings) := do
  match ← f.readText path with
  | .error e => return .error (.unreadable path e)
  | .ok text => return Settings.ofFile path text

namespace Project

/-- Reads the settings of a project, from its own file unless another is named. -/
def load (f : Files m) (directory : String) (path : Option String) :
    m (Except ProjectError Project) := do
  let path := path.getD (settingsFile directory)
  if ← f.isPresent path then
    match ← loadSettings f path with
    | .error e => return .error (.settings e)
    | .ok settings => return .ok ⟨directory, path, settings⟩
  else return .error (.noSettings path)

/-- A path as seen from the project. -/
def resolve (p : Project) (path : String) : String := Path.join p.directory path

/-- The file for the generated wrappers. -/
def outputFile (p : Project) : String := p.resolve p.settings.output.file

/-- What is to be generated. Routines that are named replace those of the settings. -/
def request (p : Project) (g : GenerateArguments) : GenerationRequest :=
  let options := p.settings.output.options
  { routines := if g.routines.isEmpty then p.settings.routines else g.routines
    output := (g.output.map p.resolve).getD p.outputFile
    options := { options with
      package := g.package.getD options.package
      argsDef := g.argsDef || options.argsDef }
    overrides := p.settings.overrides
    dryRun := g.dryRun }

end Project
end RoutineBindings
