import RoutineBindings.Files.Basic
import RoutineBindings.Text.Blank

/-!
# Formatters

A formatter is a program that is given the file as its last argument. What it printed is kept
when it did not succeed.
-/
namespace RoutineBindings
open Text (Bytes)

inductive ExitStatus where
  | exited (code : Nat)
  | killed (signal : Nat)
  deriving Repr, DecidableEq

/-- The names of signals. -/
def signalNames : List (Nat × String) :=
  [(1, "HUP"), (2, "INT"), (3, "QUIT"), (4, "ILL"), (5, "TRAP"), (6, "ABRT"), (7, "BUS"),
    (8, "FPE"), (9, "KILL"), (10, "USR1"), (11, "SEGV"), (12, "USR2"), (13, "PIPE"),
    (14, "ALRM"), (15, "TERM"), (16, "STKFLT"), (17, "CHLD"), (18, "CONT"), (19, "STOP"),
    (20, "TSTP"), (21, "TTIN"), (22, "TTOU"), (23, "URG"), (24, "XCPU"), (25, "XFSZ"),
    (26, "VTALRM"), (27, "PROF"), (28, "WINCH"), (29, "IO"), (30, "PWR"), (31, "SYS")]

namespace ExitStatus

def isSuccess (s : ExitStatus) : Bool := s = .exited 0

def message : ExitStatus → String
  | .exited code => "exit status: " ++ toString code
  | .killed signal =>
    "signal: " ++ toString signal ++
      match signalNames.lookup signal with
      | some name => " (SIG" ++ name ++ ")"
      | none => ""

end ExitStatus

/-- What a program left when it ended. -/
structure Outcome where
  status : ExitStatus
  stdout : Bytes
  stderr : Bytes
  deriving Repr, DecidableEq

/-- The programs that can be run, in any monad that can run them. -/
structure Programs (m : Type → Type) where
  run : (program : String) → (arguments : List String) → m (Except FileFault Outcome)

/-- What a program printed, without blanks at the end. -/
def Outcome.diagnostics (o : Outcome) : String :=
  Text.trimTextEnd (Text.decodeLossy o.stdout ++ Text.decodeLossy o.stderr)

/-- Runs a formatter on a file; without a formatter there is nothing to do. -/
def Programs.format {m : Type → Type} [Monad m] (p : Programs m) (formatter : List String)
    (path : String) : m (Except FormatterError Unit) := do
  match formatter with
  | [] => return .ok ()
  | program :: arguments =>
    match ← p.run program (arguments ++ [path]) with
    | .error e => return .error (.spawn program e.message)
    | .ok outcome =>
      if outcome.status.isSuccess then return .ok ()
      else return .error (.failed program outcome.status.message outcome.diagnostics)

end RoutineBindings
