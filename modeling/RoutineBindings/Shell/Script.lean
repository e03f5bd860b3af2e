import RoutineBindings.Formatter

/-!
# Shell scripts

A script is simple commands one after the other, with quoting, comments, the arguments of the
script and redirections of output. All but the exit code of the command before is put into
the words when the script is read.
-/
namespace RoutineBindings.Shell

/-- How a command follows the one before it. -/
inductive Connector where
  | always | onSuccess | onFailure
  deriving Repr, DecidableEq

inductive Stream where
  | out | err
  deriving Repr, DecidableEq

/-- Where a stream is sent. -/
inductive Redirection where
  | toStream (source target : Stream)
  | toFile (source : Stream) (appends : Bool)
  deriving Repr, DecidableEq

/-- A part of a word: a character, or the exit code of the command before. -/
inductive Part where
  | char (c : Char)
  | lastCode
  deriving Repr, DecidableEq

def Part.value (last : Nat) : Part → List Char
  | .char c => [c]
  | .lastCode => (toString last).toList

/-- The text of a word after a command with an exit code. -/
def wordText (last : Nat) (parts : List Part) : String :=
  String.ofList (parts.flatMap (Part.value last))

inductive Piece where
  | word (parts : List Part)
  | connector (c : Connector)
  | lineEnd
  | redirection (r : Redirection)
  deriving Repr, DecidableEq

/-- The values that a script can name. -/
structure Parameters where
  /-- The name of the script. -/
  name : String
  arguments : List String
  deriving Repr, DecidableEq

/-- The number that stands for the shell itself. -/
def ownNumber : String := "4711"

/-- What stands for a parameter; one that is not set is empty. -/
def Parameters.value (ps : Parameters) (c : Char) : List Part :=
  match c with
  | '?' => [.lastCode]
  | c => (text c).toList.map .char
where
  text (c : Char) : String :=
    match c with
    | '0' => ps.name
    | '#' => toString ps.arguments.length
    | '$' => ownNumber
    | '@' | '*' => Text.joined " " ps.arguments
    | c => (ps.arguments[c.toNat - '1'.toNat]?).getD ""

def isParameter (c : Char) : Bool :=
  c.isDigit || c = '#' || c = '$' || c = '@' || c = '*' || c = '?'

/-- A word that is being read, its parts in reverse. It is a word even when it is empty if a
part of it is quoted. -/
structure Word where
  parts : List Part
  quoted : Bool
  deriving Repr, DecidableEq

/-- Where the reading of a script stands. -/
inductive Quoting where
  | none | single | double | comment
  deriving Repr, DecidableEq

def Word.empty : Word := ⟨[], false⟩

def Word.push (w : Word) (ps : List Part) : Word := ⟨ps.reverse ++ w.parts, w.quoted⟩

def Word.pushChar (w : Word) (c : Char) : Word := w.push [.char c]

/-- The piece of a word, if it is one. -/
def Word.pieces (w : Word) : List Piece :=
  if w.parts.isEmpty && !w.quoted then [] else [.word w.parts.reverse]

/-- Reads the pieces of a script. -/
def pieces (ps : Parameters) : Quoting → Word → List Char → List Piece
  | _, w, [] => w.pieces
  | .comment, _, '\n' :: cs => .lineEnd :: pieces ps .none .empty cs
  | .comment, w, _ :: cs => pieces ps .comment w cs
  | .single, w, '\'' :: cs => pieces ps .none w cs
  | .single, w, c :: cs => pieces ps .single (w.pushChar c) cs
  | .double, w, '"' :: cs => pieces ps .none w cs
  | .none, w, '\'' :: cs => pieces ps .single { w with quoted := true } cs
  | .none, w, '"' :: cs => pieces ps .double { w with quoted := true } cs
  | .none, w, '\\' :: '\n' :: cs => pieces ps .none w cs
  | .none, w, '\\' :: c :: cs => pieces ps .none ({ w with quoted := true }.pushChar c) cs
  | .double, w, '\\' :: '\n' :: cs => pieces ps .double w cs
  | .double, w, '\\' :: c :: cs =>
    if ['$', '\x60', '"', '\\'].contains c then pieces ps .double (w.pushChar c) cs
    else pieces ps .double ((w.pushChar '\\').pushChar c) cs
  | q, w, '$' :: c :: cs =>
    if isParameter c then pieces ps q (w.push (ps.value c)) cs
    else pieces ps q ((w.pushChar '$').pushChar c) cs
  | .double, w, c :: cs => pieces ps .double (w.pushChar c) cs
  | .none, w, ';' :: cs => w.pieces ++ .connector .always :: pieces ps .none .empty cs
  | .none, w, '\n' :: cs => w.pieces ++ .lineEnd :: pieces ps .none .empty cs
  | .none, w, '&' :: '&' :: cs =>
    w.pieces ++ .connector .onSuccess :: pieces ps .none .empty cs
  | .none, w, '|' :: '|' :: cs =>
    w.pieces ++ .connector .onFailure :: pieces ps .none .empty cs
  | .none, w, '>' :: '&' :: '2' :: cs =>
    redirected w (.toStream .out .err) (.toStream .err .err) ++ pieces ps .none .empty cs
  | .none, w, '>' :: '&' :: '1' :: cs =>
    redirected w (.toStream .out .out) (.toStream .err .out) ++ pieces ps .none .empty cs
  | .none, w, '>' :: '>' :: cs =>
    redirected w (.toFile .out true) (.toFile .err true) ++ pieces ps .none .empty cs
  | .none, w, '>' :: cs =>
    redirected w (.toFile .out false) (.toFile .err false) ++ pieces ps .none .empty cs
  | .none, w, c :: cs =>
    if c = ' ' || c = '\t' then w.pieces ++ pieces ps .none .empty cs
    else if c = '#' && w = .empty then pieces ps .comment w cs
    else pieces ps .none (w.pushChar c) cs
where
  /-- A digit right before a redirection names its stream. -/
  redirected (w : Word) (out err : Redirection) : List Piece :=
    if w = ⟨[.char '1'], false⟩ then [.redirection out]
    else if w = ⟨[.char '2'], false⟩ then [.redirection err]
    else w.pieces ++ [.redirection out]

structure SimpleCommand where
  connector : Connector
  /-- The line of the script. -/
  line : Nat
  words : List (List Part)
  /-- The redirections with their files. -/
  redirections : List (Redirection × List Part)
  deriving Repr, DecidableEq

def SimpleCommand.isEmpty (c : SimpleCommand) : Bool :=
  c.words.isEmpty && c.redirections.isEmpty

/-- Groups the pieces into commands. A line break before a command changes only its line. -/
def commands (current : SimpleCommand) : List Piece → List SimpleCommand
  | [] => [current]
  | .connector c :: ps => current :: commands ⟨c, current.line, [], []⟩ ps
  | .lineEnd :: ps =>
    if current.isEmpty then commands { current with line := current.line + 1 } ps
    else current :: commands ⟨.always, current.line + 1, [], []⟩ ps
  | .redirection (.toFile s a) :: .word file :: ps =>
    commands { current with redirections := current.redirections ++ [(.toFile s a, file)] } ps
  | .redirection r :: ps =>
    commands { current with redirections := current.redirections ++ [(r, [])] } ps
  | .word parts :: ps => commands { current with words := current.words ++ [parts] } ps

/-- The commands of a script. -/
def commandsOf (script : String) (ps : Parameters) : List SimpleCommand :=
  commands ⟨.always, 1, [], []⟩ (pieces ps .none .empty script.toList)

end RoutineBindings.Shell
