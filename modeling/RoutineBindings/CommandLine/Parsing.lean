import RoutineBindings.CommandLine.Grammar

/-!
# Reading a command line

Arguments are read from left to right. An option whose value is an argument of its own waits
for it and is settled with the next option or at the end; an argument that is not known is
reported before an option that still waits.
-/
namespace RoutineBindings.CommandLine

/-- What was read so far. -/
structure Given where
  /-- The options with their values; a flag has an empty one. -/
  options : List (OptionRule × String)
  routines : List String
  /-- The option that is not settled, with its value when that was read. -/
  waiting : Option (OptionRule × Option String)
  /-- Whether no options follow. -/
  optionsDone : Bool
  deriving Repr, DecidableEq

namespace Given

def nothing : Given := ⟨[], [], none, false⟩

def value? (g : Given) (o : OptionRule) : Option String := g.options.lookup o

def has (g : Given) (o : OptionRule) : Bool := (g.value? o).isSome

/-- Records an option; no option is given twice. -/
def record (g : Given) (o : OptionRule) (value : String) : Except UsageError Given :=
  if g.has o then .error .repeatedOption
  else if o.accepts value then .ok { g with options := (o, value) :: g.options }
  else .error .invalidValue

/-- Settles the option that waits; by now it has to have a value. -/
def settle (g : Given) : Except UsageError Given :=
  match g.waiting with
  | none => .ok g
  | some (_, none) => .error .invalidValue
  | some (o, some value) => { g with waiting := none }.record o value

/-- Takes an option that has no value of its own. -/
def flag (g : Given) (o : OptionRule) : Except UsageError Given := do
  let g ← g.settle
  match o.kind with
  | .help => .error .helpWanted
  | .version => .error .versionWanted
  | _ => g.record o ""

/-- Takes an option with a value. Without one in its own argument it waits for the next. -/
def valued (g : Given) (o : OptionRule) (value : Option String) : Except UsageError Given := do
  let g ← g.settle
  match value with
  | some v => g.record o v
  | none => return { g with waiting := some (o, none) }

def long (g : Given) (s : Scope) (name : String) (value : Option String) :
    Except UsageError Given :=
  match s.long? name, value with
  | none, _ => .error .unknownArgument
  | some o, value =>
    if o.takesValue then g.valued o value
    else if value.isSome then .error .unexpectedValue
    else g.flag o

/-- Takes a cluster of short options. The first that has a value takes the rest as its value,
without an equals sign in front. -/
def shorts (s : Scope) : List Char → Given → Except UsageError Given
  | [], g => .ok g
  | c :: cs, g =>
    match s.short? c with
    | none => .error .unknownArgument
    | some o =>
      if o.takesValue then
        match cs with
        | [] => g.valued o none
        | '=' :: value => g.valued o (some (String.ofList value))
        | value => g.valued o (some (String.ofList value))
      else (g.flag o).bind (shorts s cs)

/-- Takes a text that is neither an option nor the value of one. -/
def plain (g : Given) (s : Scope) (text : String) : Except UsageError Given :=
  if s.hasRoutines then do
    let g ← g.settle
    return { g with routines := g.routines ++ [text] }
  else if s.hasCommands && !(g.optionsDone && isCommand text) then .error .unknownCommand
  else .error .unknownArgument
where
  isCommand (text : String) : Bool := (CommandName.ofText? text).isSome || text = "help"

/-- Whether the next argument can be the value of an option that waits. -/
def expectsValue (g : Given) : Bool :=
  !g.optionsDone && (g.waiting.map fun w => w.2.isNone).getD false

/-- Takes one argument that names no command. -/
def take (g : Given) (s : Scope) (text : String) : Except UsageError Given :=
  if g.optionsDone then g.plain s text
  else
    match Argument.ofText text, g.waiting with
    | .separator, _ => .ok { g with optionsDone := true }
    | .long name value, _ => g.long s name value
    | .shorts cluster, _ => shorts s cluster g
    | .plain text, some (o, none) => .ok { g with waiting := some (o, some text) }
    | .plain text, _ => g.plain s text

end Given

/-- Reads the arguments in front of the command, up to the command. -/
def readOuter : List String → Given → Except UsageError (Given × Option (String × List String))
  | [], g => .ok (g, none)
  | a :: as, g =>
    if !g.optionsDone && !g.expectsValue && Given.plain.isCommand a then .ok (g, some (a, as))
    else (g.take .outer a).bind (readOuter as)

/-- Reads the arguments after the command. -/
def readInner (s : Scope) : List String → Given → Except UsageError Given
  | [], g => g.settle
  | a :: as, g => (g.take s a).bind (readInner s as)

/-- What the help command answers for the names after it. -/
def helpOn : List String → UsageError
  | [] => .helpWanted
  | [name] => if Given.plain.isCommand name then .helpWanted else .unknownCommand
  | _ => .unknownCommand

def command (name : CommandName) (g : Given) : Command :=
  match name with
  | .init => .init (g.has .force)
  | .generate => .generate
      { routines := g.routines, output := g.value? .output, package := g.value? .package
        argsDef := g.has .argsDef, dryRun := g.has .dryRun }

/-- The invocation of what was given in front of a command and after it. An option that both
have counts as it is given after the command. -/
def invocation (name : CommandName) (outer inner : Given) : Invocation :=
  let value? (o : OptionRule) := (inner.value? o).or (outer.value? o)
  { config := value? .config
    verbose := (value? .verbose).isSome
    noColor := (value? .noColor).isSome
    format := ((value? .format).bind OutputFormat.ofText?).getD .text
    command := command name inner }

/-- Reads a command line without the program's name. -/
def parse (arguments : List String) : Except UsageError Invocation := do
  match ← readOuter arguments .nothing with
  | (outer, none) =>
    let outer ← outer.settle
    .error (if outer.options.isEmpty then .nothingGiven else .missingCommand)
  | (outer, some (name, rest)) =>
    match CommandName.ofText? name with
    | none => .error (helpOn rest)
    | some name =>
      let inner ← readInner (.ofCommand name) rest .nothing
      let outer ← outer.settle
      return invocation name outer inner

end RoutineBindings.CommandLine
