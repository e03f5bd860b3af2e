import RoutineBindings.Text.Blank

/-!
# Line writer

Text is written piece by piece to a sink that may refuse any single piece. The writer keeps
the indentation: the first piece on a line is preceded by one indentation unit per open
level. An operation either completes or stops at the first refused piece; both outcomes
carry the state that is left, so writing can go on after a refusal.
-/
namespace RoutineBindings.Go

/-- Decides about a piece, given the number of pieces offered before it and the text that
the sink holds. -/
abbrev Sink := Nat → String → String → Bool

def Sink.unlimited : Sink := fun _ _ _ => true

/-- A sink that holds at most the given number of UTF-8 bytes. -/
def Sink.upTo (limit : Nat) : Sink :=
  fun _ held piece => held.utf8ByteSize + piece.utf8ByteSize ≤ limit

structure LineWriter where
  sink : Sink
  /-- What one level of indentation is written as. -/
  unit : String
  /-- What the sink has accepted. -/
  held : String
  /-- How many pieces were offered to the sink. -/
  offered : Nat
  level : Nat
  atLineStart : Bool

namespace LineWriter

def new (sink : Sink) (unit : String) : LineWriter :=
  { sink, unit, held := "", offered := 0, level := 0, atLineStart := true }

/-- A writer that indents with tabs and is never refused. -/
def withTabs : LineWriter := new .unlimited "\t"

/-- The state after a completed operation, or after one that a refused piece stopped. -/
abbrev Result := Except LineWriter LineWriter

/-- The state in either outcome. -/
def Result.state : Result → LineWriter
  | .ok w => w
  | .error w => w

/-- Offers one piece to the sink. -/
def offer (w : LineWriter) (piece : String) : Result :=
  if w.sink w.offered w.held piece then
    .ok { w with held := w.held ++ piece, offered := w.offered + 1 }
  else .error { w with offered := w.offered + 1 }

/-- Offers the indentation unit a number of times. -/
def offerUnits (w : LineWriter) : Nat → Result
  | 0 => .ok w
  | n + 1 => do (← w.offer w.unit).offerUnits n

/-- Writes text on the current line. The empty text leaves even the indentation out. -/
def write (w : LineWriter) (text : String) : Result :=
  if text.isEmpty then .ok w
  else if w.atLineStart then do
    let w ← w.offerUnits w.level
    { w with atLineStart := false }.offer text
  else w.offer text

/-- Ends the current line. -/
def newline (w : LineWriter) : Result := do
  let w ← w.offer "\n"
  return { w with atLineStart := true }

def writeln (w : LineWriter) (text : String) : Result := do
  (← w.write text).newline

/-- Leaves an empty line, after ending the current line if anything stands on it. -/
def blankLine (w : LineWriter) : Result :=
  if w.atLineStart then w.newline else do (← w.newline).newline

/-- Opens a level of indentation. -/
def indent (w : LineWriter) : LineWriter := { w with level := w.level + 1 }

/-- Closes a level of indentation, if one is open. -/
def dedent (w : LineWriter) : LineWriter := { w with level := w.level - 1 }

def commentLine (line : String) : String :=
  if line.isEmpty then "//" else "// " ++ line

/-- Writes the lines one by one. -/
def writeLines (w : LineWriter) : List String → Result
  | [] => .ok w
  | l :: ls => do (← w.writeln l).writeLines ls

/-- Writes each line of the text as a line comment. -/
def comment (w : LineWriter) (text : String) : Result :=
  w.writeLines ((Text.textLines text).map commentLine)

end LineWriter
end RoutineBindings.Go
