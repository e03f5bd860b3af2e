import RoutineBindings.Text.Blank
import RoutineBindings.Wrapper.Resolved
import RoutineBindings.Wrapper.TypeResolution

/-!
# Settings

What a project states about its database, its output and its types. Settings that can be read
may still lack something; `Settings.validate` finds the first such fault.
-/
namespace RoutineBindings

inductive SslMode where
  | disable | prefer | require | verifyCa | verifyFull
  deriving Repr, DecidableEq

namespace SslMode

def text : SslMode → String
  | .disable => "disable"
  | .prefer => "prefer"
  | .require => "require"
  | .verifyCa => "verify-ca"
  | .verifyFull => "verify-full"

def all : List SslMode := [.disable, .prefer, .require, .verifyCa, .verifyFull]

def ofText? (s : String) : Option SslMode := all.find? (·.text = s)

theorem ofText?_text (mode : SslMode) : ofText? mode.text = some mode := by
  cases mode <;> decide

theorem text_injective {a b : SslMode} (h : a.text = b.text) : a = b := by
  have hs : some a = some b := by rw [← ofText?_text a, ← ofText?_text b, h]
  exact Option.some.inj hs

end SslMode

namespace ConnectionStyle

def text : ConnectionStyle → String
  | .accessor => "accessor"
  | .parameter => "parameter"

def all : List ConnectionStyle := [.accessor, .parameter]

def ofText? (s : String) : Option ConnectionStyle := all.find? (·.text = s)

theorem ofText?_text (style : ConnectionStyle) : ofText? style.text = some style := by
  cases style <;> decide

end ConnectionStyle

structure DatabaseSettings where
  host : String
  port : UInt16
  database : String
  user : Option String
  password : Option String
  /-- The seconds to wait for a connection. -/
  timeout : Option UInt64
  sslMode : Option SslMode
  deriving Repr, DecidableEq

structure OutputSettings where
  file : String
  options : WrapperOptions
  deriving Repr, DecidableEq

structure Settings where
  version : String
  database : DatabaseSettings
  output : OutputSettings
  /-- The program that formats the output and its arguments. -/
  formatter : List String
  overrides : Overrides
  /-- The routines to generate wrappers for, unless others are asked for. -/
  routines : List String
  deriving Repr, DecidableEq

/-! ## Defaults -/

def defaultHost : String := "localhost"

def defaultPort : UInt16 := 5432

def defaultAccessor : String := "getDB"

def defaultFormatter : List String := ["gofmt", "-w"]

/-! ## Validity -/

/-- What the settings of a database lack. -/
inductive DatabaseFault where
  | noDatabase
  deriving Repr, DecidableEq

def DatabaseFault.message : DatabaseFault → String
  | .noDatabase => "Database name is not specified"

/-- What the settings of the output lack. -/
inductive OutputFault where
  | noFile
  | noPackage
  | noAccessor
  deriving Repr, DecidableEq

def OutputFault.message : OutputFault → String
  | .noFile => "Output file is not specified"
  | .noPackage => "Output package is not specified"
  | .noAccessor => "db_accessor must not be empty"

/-- What settings lack. -/
inductive SettingsFault where
  | noVersion
  | database (fault : DatabaseFault)
  | output (fault : OutputFault)
  | emptyType (name : String)
  deriving Repr, DecidableEq

/-- A fault in words, from its context inwards. -/
def SettingsFault.chain : SettingsFault → List String
  | .noVersion => ["Config file version is not specified"]
  | .database fault => ["Invalid database config", fault.message]
  | .output fault => ["Invalid output config", fault.message]
  | .emptyType name => ["type_map entry '" ++ name ++ "' has an empty Go type"]

def DatabaseSettings.validate (d : DatabaseSettings) : Except DatabaseFault Unit :=
  if d.database.isEmpty then .error .noDatabase else .ok ()

def OutputSettings.validate (o : OutputSettings) : Except OutputFault Unit :=
  if o.file.isEmpty then .error .noFile
  else if o.options.package.isEmpty then .error .noPackage
  else if o.options.connection = .accessor && o.options.dbAccessor.isEmpty then
    .error .noAccessor
  else .ok ()

/-- The first database type of a table whose Go type is blank. -/
def Overrides.blank? (o : Overrides) : Option String :=
  (o.types.find? fun (_, type) => (Text.trimText type).isEmpty).map (·.1)

def Settings.validate (s : Settings) : Except SettingsFault Unit := do
  if s.version.isEmpty then .error .noVersion
  s.database.validate.mapError .database
  s.output.validate.mapError .output
  match s.overrides.blank? with
  | some name => .error (.emptyType name)
  | none => .ok ()

end RoutineBindings
