import RoutineBindings.Settings.Basic

/-!
# Connections

Where the database is found. Variables of the environment come before the settings, and a
variable that holds a whole connection URL comes before everything.
-/
namespace RoutineBindings
open Text

/-- The variables of an environment that are set. -/
abbrev Environment := String → Option String

/-- The port that a text gives: decimal digits, after a plus at most. -/
def port? (s : String) : Option UInt16 := do
  let cs := s.toList
  let ds := if cs.head? = some '+' then cs.tail else cs
  if ds.isEmpty || !ds.all Char.isDigit then none
  let n := ds.foldl (fun n c => n * 10 + (c.toNat - '0'.toNat)) 0
  if n < UInt16.size then some (UInt16.ofNat n) else none

/-- The settings with what the environment says instead. A port that is none is left out. -/
def DatabaseSettings.overriddenBy (env : Environment) (d : DatabaseSettings) :
    DatabaseSettings :=
  { d with
    host := (env "DB_HOST").getD d.host
    port := ((env "DB_PORT").bind port?).getD d.port
    database := (env "DB_DATABASE").getD d.database
    user := (env "DB_USER").or d.user
    password := (env "DB_PASSWORD").or d.password }

/-- The connection URL of the environment; an empty one does not count. -/
def connectionUrl? (env : Environment) : Option String :=
  (env "PGFUNCGEN_DATABASE_URL").filter (!·.isEmpty)

/-- The user that connects when none is given. -/
def defaultUser : String := "postgres"

/-- The user with a password that is not empty. -/
def DatabaseSettings.credentials (d : DatabaseSettings) : String :=
  let user := d.user.getD defaultUser
  match d.password with
  | some password => if password.isEmpty then user else user ++ ":" ++ password
  | none => user

/-- The connection URL of the settings. -/
def DatabaseSettings.url (d : DatabaseSettings) : String :=
  "postgresql://" ++ d.credentials ++ "@" ++ d.host ++ ":" ++ toString d.port.toNat ++ "/"
    ++ d.database
    ++ match d.sslMode with
      | some mode => "?sslmode=" ++ mode.text
      | none => ""

/-- How connections are made and kept. -/
structure PoolOptions where
  maxConnections : Nat
  /-- The seconds to wait for a connection. -/
  timeout : UInt64
  deriving Repr, DecidableEq

/-- Catalog queries are made one after the other, so few connections are enough. -/
def PoolOptions.ofTimeout (timeout : Option UInt64) : PoolOptions := ⟨2, timeout.getD 30⟩

/-- What a connection is made to. -/
structure ConnectionTarget where
  url : String
  database : String
  pool : PoolOptions
  deriving Repr, DecidableEq

/-- The target of the settings in an environment. -/
def DatabaseSettings.target (env : Environment) (d : DatabaseSettings) : ConnectionTarget :=
  let resolved := d.overriddenBy env
  { url := (connectionUrl? env).getD resolved.url
    database := resolved.database
    pool := .ofTimeout resolved.timeout }

end RoutineBindings
