import RoutineBindings.Generation
import RoutineBindings.Json.Value

/-!
# Reports

What a command prints. A dry run prints the source itself, so that it can be read or piped;
any other run says what was written.
-/
namespace RoutineBindings

inductive OutputFormat where
  | text | json
  deriving Repr, DecidableEq

namespace OutputFormat

def ofText? : String → Option OutputFormat
  | "text" => some .text
  | "json" => some .json
  | _ => none

/-- The answer of a command, which has a form for readers and one for programs. -/
def render (f : OutputFormat) (value : Json.Value) (text : String) : String :=
  match f with
  | .text => text
  | .json => value.pretty

end OutputFormat

/-- A text in bold green, on a terminal that shows colors. -/
def highlighted (color : Bool) (s : String) : String :=
  if color then "\x1b[1;32m" ++ s ++ "\x1b[0m" else s

namespace GenerationReport

def text (color : Bool) (r : GenerationReport) : String :=
  if r.written then
    highlighted color "Generated" ++ " " ++ r.output ++ " (" ++ toString r.functions.length
      ++ " functions, " ++ toString r.enumCount ++ " enums)"
  else Text.trimTextEnd r.source

/-- The report for programs; the source is part of it unless it was written. -/
def summary (r : GenerationReport) : Json.Value :=
  .object ([("output", .text r.output), ("functions", .list (r.functions.map .text)),
    ("enums", .integer r.enumCount), ("written", .bool r.written)]
    ++ if r.written then [] else [("source", .text r.source)])

def render (f : OutputFormat) (color : Bool) (r : GenerationReport) : String :=
  f.render r.summary (r.text color)

end GenerationReport
end RoutineBindings
