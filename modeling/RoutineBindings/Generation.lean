import RoutineBindings.Catalog.Introspection
import RoutineBindings.Wrapper.Decls

/-!
# Generation

All requested routines are looked up before any type is resolved, so a routine that cannot be
found stops the run before anything else happens. The source is written and formatted only
when every wrapper has been made.
-/
namespace RoutineBindings

structure GenerationRequest where
  /-- The routines in the order of their wrappers. -/
  routines : List String
  output : String
  options : WrapperOptions
  overrides : Overrides
  /-- Leaves the files alone. -/
  dryRun : Bool
  deriving Repr, DecidableEq

structure Synthesis where
  /-- The names of the wrappers in order. -/
  functions : List String
  enumCount : Nat
  source : String
  deriving Repr, DecidableEq

/-- Resolves routines one after the other and adds their wrappers to the file. -/
def addWrappers (o : Overrides) (c : Catalog) :
    List Routine → WrapperFile → Needs → Journaled (WrapperFile × Needs)
  | [], f, n => return (f, n)
  | r :: rs, f, n => do
    let (resolved, n) ← resolveRoutine o c r n
    let (f, n) := f.add resolved n
    addWrappers o c rs f n

/-- Makes the source for a request. -/
def synthesize (c : Catalog) (q : GenerationRequest) :
    Journaled (Except GenerateError Synthesis) :=
  if q.routines.isEmpty then return .error .noRoutines
  else do
    match ← introspectAll c q.routines with
    | .error e => return .error (.introspection e)
    | .ok routines =>
      let (file, needs) ← addWrappers q.overrides c routines (.new q.options) .empty
      return .ok
        { functions := routines.map Routine.goName
          enumCount := needs.enums.size
          source := file.render needs }

/-- The actions on the generated file, in any monad that can perform them. -/
structure Workbench (m : Type → Type) where
  write : String → String → m (Except FileError Unit)
  /-- Runs the formatter on a file. -/
  format : String → m (Except FormatterError Unit)

/-- Writes a file and formats it; a file that could not be written is not formatted. -/
def Workbench.writeAndFormat {m : Type → Type} [Monad m] (b : Workbench m)
    (path source : String) : m (Except GenerateError Unit) := do
  match ← b.write path source with
  | .error e => return .error (.file e)
  | .ok () =>
    match ← b.format path with
    | .error e => return .error (.formatter e)
    | .ok () => return .ok ()

structure GenerationReport where
  output : String
  functions : List String
  enumCount : Nat
  /-- The source before it is formatted. -/
  source : String
  written : Bool
  deriving Repr, DecidableEq

def Synthesis.report (s : Synthesis) (q : GenerationRequest) : GenerationReport :=
  { output := q.output, functions := s.functions, enumCount := s.enumCount, source := s.source,
    written := !q.dryRun }

/-- Makes the source for a request and puts it into its file. -/
def generate {m : Type → Type} [Monad m] (c : Catalog) (b : Workbench m)
    (q : GenerationRequest) : m (Journaled (Except GenerateError GenerationReport)) := do
  let made := synthesize c q
  match made.value with
  | .error e => return ⟨.error e, made.events⟩
  | .ok s =>
    if q.dryRun then return ⟨.ok (s.report q), made.events⟩
    else
      match ← b.writeAndFormat q.output s.source with
      | .error e => return ⟨.error e, made.events⟩
      | .ok () => return ⟨.ok (s.report q), made.events⟩

end RoutineBindings
