import RoutineBindings.Files.Basic
import RoutineBindings.Settings.Basic
import RoutineBindings.Text.Quoted

/-!
# First settings

Writes a settings file to start from. A file that is there already is kept unless it is to be
replaced.
-/
namespace RoutineBindings

/-- The name of the settings file of a project. -/
def settingsFileName : String := ".pgfuncgen.yaml"

/-- The settings file of a project. -/
def settingsFile (project : String) : String := Path.join project settingsFileName

/-- The lines of the first settings. -/
def settingsTemplateLines : List String :=
  [ "version: \"1.0\"",
    "",
    "database:",
    "  host: localhost",
    "  port: 5432",
    "  database: app",
    "  user: postgres",
    "  # password は DB_PASSWORD 環境変数でも指定できます",
    "  timeout: 30",
    "",
    "output:",
    "  file: db/functions.go",
    "  package: db",
    "  args_def: false",
    "  # accessor: getDB() を呼ぶ / parameter: 第1引数に db *sqlx.DB を受け取る",
    "  connection: accessor",
    "  db_accessor: getDB",
    "",
    "formatter: [\"gofmt\", \"-w\"]",
    "",
    "# PostgreSQL型名 -> Go型",
    "type_map: \x7b\x7d",
    "",
    "# Go型 -> インポートパス",
    "type_imports: \x7b\x7d",
    "",
    "# 生成するルーチン（schema.name または name）",
    "functions: []" ]

def settingsTemplate : String := String.join (settingsTemplateLines.map (· ++ "\n"))

/-- Why no settings file was written. -/
inductive InitError where
  | present (path : String)
  | directory (path : String) (fault : FileFault)
  | file (path : String) (fault : FileFault)
  deriving Repr, DecidableEq

/-- A failure in words, from its context inwards. -/
def InitError.chain : InitError → List String
  | .present path => ["Config file already exists: " ++ Text.quoted path
      ++ ". Use --force option to overwrite it."]
  | .directory path e => ["Failed to create directory: " ++ Text.quoted path, e.message]
  | .file path e => ["Failed to write config file: " ++ Text.quoted path, e.message]

variable {m : Type → Type} [Monad m]

/-- Writes the first settings into a file, and answers what was done. -/
def createSettings (f : Files m) (path : String) (force : Bool) :
    m (Except InitError String) := do
  if !force && (← f.isPresent path) then return .error (.present path)
  match ← f.createParent path with
  | .error (directory, e) => return .error (.directory directory e)
  | .ok () =>
    match ← f.write path (Text.encode settingsTemplate) with
    | .error e => return .error (.file path e)
    | .ok () => return .ok ("Created " ++ path)

/-- Whether a project has a settings file. -/
def hasSettings (f : Files m) (project : String) : m Bool := f.isPresent (settingsFile project)

end RoutineBindings
