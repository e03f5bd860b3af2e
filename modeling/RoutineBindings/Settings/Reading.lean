import RoutineBindings.Settings.Basic
import RoutineBindings.Text.Character
import RoutineBindings.Yaml.Node

/-!
# Reading settings

Settings are a YAML document. Every scalar but a null is a text, numbers and flags may be
quoted, fields that are not known are left alone, and what is not given has a default.
-/
namespace RoutineBindings
open Text

/-- Why a document does not give settings. -/
inductive SettingsProblem where
  | document (problem : Yaml.Problem)
  | missing (field : String)
  | notMapping
  | notSequence
  | notText
  | notNumber
  | notFlag
  | unknownChoice (text : String)
  deriving Repr, DecidableEq

namespace SettingsProblem

def message : SettingsProblem → String
  | .document p => p.message
  | .missing field => "the field '" ++ field ++ "' is missing"
  | .notMapping => "a mapping is expected"
  | .notSequence => "a list is expected"
  | .notText => "a text is expected"
  | .notNumber => "a number in range is expected"
  | .notFlag => "true or false is expected"
  | .unknownChoice text => "'" ++ text ++ "' is no known choice"

end SettingsProblem

/-- A reader of one value. -/
abbrev SettingsReader (α : Type) := Yaml.Node → Except SettingsProblem α

namespace SettingsReader

/-- A text with its ASCII letters in lower case. -/
def lowered (s : String) : String := String.ofList (s.toList.map Char.toLower)

/-- Whether a node says that there is no value. -/
def isNull : Yaml.Node → Bool
  | .scalar .plain s => s = "" || s = "~" || lowered s = "null"
  | _ => false

def text : SettingsReader String := fun n =>
  match n with
  | .scalar _ s => if isNull n then .error .notText else .ok s
  | _ => .error .notText

/-- The value of a digit in a base up to sixteen. -/
def digit? (base : Nat) (c : Char) : Option Nat := do
  let d ← Yaml.hexDigit? c
  if d < base then some d else none

/-- The number that digits write; underscores between them do not count. -/
def digits? (base : Nat) (cs : List Char) : Option Nat :=
  match cs.filter (· ≠ '_') with
  | [] => none
  | ds => ds.foldl (fun n c => do return (← n) * base + (← digit? base c)) (some 0)

/-- The number that a text writes in decimal, or in another base after its mark. -/
def number? (s : String) : Option Nat :=
  let cs := trim s.toList
  match (if cs.head? = some '+' then cs.tail else cs) with
  | '0' :: 'x' :: ds | '0' :: 'X' :: ds => digits? 16 ds
  | '0' :: 'o' :: ds | '0' :: 'O' :: ds => digits? 8 ds
  | '0' :: 'b' :: ds | '0' :: 'B' :: ds => digits? 2 ds
  | ds => digits? 10 ds

/-- Reads a number below a bound. -/
def number (bound : Nat) : SettingsReader Nat := fun n =>
  match n with
  | .scalar _ s =>
    match number? s with
    | some k => if k < bound then .ok k else .error .notNumber
    | none => .error .notNumber
  | _ => .error .notNumber

def port : SettingsReader UInt16 := fun n => (number UInt16.size n).map UInt16.ofNat

def timeout : SettingsReader UInt64 := fun n => (number UInt64.size n).map UInt64.ofNat

def flag : SettingsReader Bool := fun n =>
  match n with
  | .scalar _ s =>
    let word := lowered (trimText s)
    if ["true", "yes", "y", "on"].contains word then .ok true
    else if ["false", "no", "n", "off"].contains word then .ok false
    else .error .notFlag
  | _ => .error .notFlag

/-- Reads one of some named choices; it may also be the only key of a mapping. -/
def choice {α : Type} (ofText? : String → Option α) : SettingsReader α := fun n => do
  let word ← match n with
    | .mapping [(key, value)] => if isNull value then text key else .error .notText
    | n => text n
  match ofText? word with
  | some a => .ok a
  | none => .error (.unknownChoice word)

/-- Whether a node says that an optional value is not given: a null, or an empty block. -/
def isAbsent : Yaml.Node → Bool
  | .scalar .literal s | .scalar .folded s => s = ""
  | n => isNull n

/-- Reads an optional value. -/
def orNone {α : Type} (read : SettingsReader α) : SettingsReader (Option α) := fun n =>
  if isAbsent n then .ok none else (read n).map some

/-- Reads a list; a null is the empty one. -/
def texts : SettingsReader (List String) := fun n =>
  match n with
  | .sequence items => items.mapM text
  | n => if isNull n then .ok [] else .error .notSequence

/-- The members of a mapping under their names. -/
def members : SettingsReader (List (String × Yaml.Node)) := fun n =>
  match n with
  | .mapping entries => entries.mapM fun (k, v) => do return (← text k, v)
  | _ => .error .notMapping

/-- Reads a table; a null is the empty one. -/
def table : SettingsReader NameTable := fun n =>
  if isNull n then .ok []
  else do
    return .ofList (← (← members n).mapM fun (k, v) => do return (k, ← text v))

/-- Reads a field, or takes its default where it is not given. -/
def fieldOr {α : Type} (ms : List (String × Yaml.Node)) (name : String) (default : α)
    (read : SettingsReader α) : Except SettingsProblem α :=
  match ms.lookup name with
  | some n => read n
  | none => .ok default

def requiredField {α : Type} (ms : List (String × Yaml.Node)) (name : String)
    (read : SettingsReader α) : Except SettingsProblem α :=
  match ms.lookup name with
  | some n => read n
  | none => .error (.missing name)

def database : SettingsReader DatabaseSettings := fun n => do
  let ms ← members n
  return {
    host := ← fieldOr ms "host" defaultHost text
    port := ← fieldOr ms "port" defaultPort port
    database := ← requiredField ms "database" text
    user := ← fieldOr ms "user" none (orNone text)
    password := ← fieldOr ms "password" none (orNone text)
    timeout := ← fieldOr ms "timeout" none (orNone timeout)
    sslMode := ← fieldOr ms "ssl_mode" none (orNone (choice SslMode.ofText?)) }

def arrayHelper : SettingsReader ArrayHelper := fun n => do
  let ms ← members n
  return {
    importPath := ← requiredField ms "import" text
    function := ← requiredField ms "function" text }

def output : SettingsReader OutputSettings := fun n => do
  let ms ← members n
  let file ← requiredField ms "file" text
  let options : WrapperOptions := {
    package := ← requiredField ms "package" text
    argsDef := ← fieldOr ms "args_def" false flag
    connection := ← fieldOr ms "connection" .accessor (choice ConnectionStyle.ofText?)
    dbAccessor := ← fieldOr ms "db_accessor" defaultAccessor text
    arrayHelper := ← fieldOr ms "array_helper" none (orNone arrayHelper) }
  return { file, options }

def settings : SettingsReader Settings := fun n => do
  let ms ← members n
  let types ← fieldOr ms "type_map" [] table
  let imports ← fieldOr ms "type_imports" [] table
  return {
    version := ← requiredField ms "version" text
    database := ← requiredField ms "database" database
    output := ← requiredField ms "output" output
    formatter := ← fieldOr ms "formatter" defaultFormatter texts
    overrides := { types, imports }
    routines := ← fieldOr ms "functions" [] texts }

end SettingsReader

/-- Reads settings from a text. -/
def Settings.ofText (text : String) : Except SettingsProblem Settings :=
  match Yaml.Node.ofText text with
  | .ok n => SettingsReader.settings n
  | .error p => .error (.document p)

end RoutineBindings
