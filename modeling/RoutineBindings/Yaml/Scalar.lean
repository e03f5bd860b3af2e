import RoutineBindings.Text.Character
import RoutineBindings.Yaml.Cursor

/-!
# Scalars

Plain and quoted scalars may run over several lines: a single line break inside becomes a
space and each further one is kept. A block scalar keeps its lines, or joins them when it is
folded; its header may state the indentation and what happens to the last line breaks.
-/
namespace RoutineBindings.Yaml

/-- A scalar that is being read: its text in reverse, and what stands between the text and
the reading position. -/
structure Gathered where
  text : List Char
  spaces : List Char
  breaks : Nat
  deriving Repr

def Gathered.empty : Gathered := ⟨[], [], 0⟩

/-- What line breaks inside a scalar stand for. -/
def foldedBreaks : Nat → List Char
  | 0 => []
  | 1 => [' ']
  | n + 2 => List.replicate (n + 1) '\n'

/-- Adds characters after what was between. -/
def Gathered.add (p : Gathered) (run : List Char) : Gathered :=
  if p.breaks = 0 then ⟨run.reverse ++ p.spaces ++ p.text, [], 0⟩
  else ⟨run.reverse ++ (foldedBreaks p.breaks).reverse ++ p.text, [], 0⟩

def Gathered.value (p : Gathered) : String := String.ofList p.text.reverse

/-- Reads blanks and an optional comment up to the end of the line. -/
def skipToLineEnd (c : Cursor) : Except Problem Cursor :=
  let n := (c.rest.takeWhile isSpace).length
  let c := c.skipSpaces n
  if c.peek = '#' then
    if n = 0 then .error .unseparatedComment
    else .ok (c.skipSpaces (c.rest.takeWhile (!isBreakOrEnd ·)).length)
  else .ok c

/-- Whether a character can stand in a plain scalar, given the one after it. -/
def isPlain (inFlow : Bool) (c next : Char) : Bool :=
  if isSpaceOrEnd c then false
  else if c = ':' && (isSpaceOrEnd next || (inFlow && isFlowIndicator next)) then false
  else !(inFlow && isFlowIndicator c)

/-- The plain characters at the start. -/
def plainRun (inFlow : Bool) : List Char → List Char
  | [] => []
  | c :: s => if isPlain inFlow c (s.headD endMark) then c :: plainRun inFlow s else []

/-- Reads blanks and line breaks. In front of text on a later line a tab does not count as
indentation up to the given column. -/
def spacesAndBreaks (indent : Int) : Nat → Cursor → Gathered → Except Problem (Cursor × Gathered)
  | 0, c, p => .ok (c, p)
  | fuel + 1, c, p =>
    if isBreak c.peek then
      spacesAndBreaks indent fuel c.skipBreak { p with spaces := [], breaks := p.breaks + 1 }
    else if isSpace c.peek then
      if !c.atLineStart then
        spacesAndBreaks indent fuel (c.skipSpaces 1) { p with spaces := c.peek :: p.spaces }
      else if c.column < indent && c.peek = '\t' then do
        let c ← skipToLineEnd c
        if isBreakOrEnd c.peek then spacesAndBreaks indent fuel c p
        else .error .tabIndentation
      else spacesAndBreaks indent fuel (c.skipSpaces 1) p
    else .ok (c, p)

/-- Reads the runs of a plain scalar. -/
def plainRuns (indent : Int) : Nat → Cursor → Gathered → Except Problem (Cursor × Gathered)
  | 0, c, p => .ok (c, p)
  | fuel + 1, c, p =>
    if (c.column = 0 && c.atDocumentMark) || c.peek = '#' then .ok (c, p)
    else if c.inFlow && c.peek = '-' && isFlowIndicator (c.peekAt 1) then
      .error (.unexpectedCharacter '-')
    else do
      let run := plainRun c.inFlow c.rest
      let (c, p) := if run.isEmpty then (c, p) else (c.skip run.length, p.add run)
      if isSpace c.peek || isBreak c.peek then
        let (c, p) ← spacesAndBreaks indent (c.rest.length + 1) c p
        if !c.inFlow && c.column < indent then .ok (c, p) else plainRuns indent fuel c p
      else .ok (c, p)

def plainScalar (c : Cursor) : Except Problem Cursor := do
  let c := { c.noteKeyStart with keyAllowed := false }
  let c := c.undeepen
  let indent := c.indent + 1
  if c.inFlow && c.column < indent then .error .badIndentation
  let (c, p) ← plainRuns indent (c.rest.length + 1) c .empty
  let c := if c.atLineStart then { c with keyAllowed := true } else c
  if p.text.isEmpty then .error .expectedNode
  else .ok (c.push (.scalar .plain p.value))

/-- The value of an escape of one letter. -/
def escapeValue? : Char → Option Char
  | '0' => some '\x00'
  | 'a' => some '\x07'
  | 'b' => some '\x08'
  | 't' | '\t' => some '\t'
  | 'n' => some '\n'
  | 'v' => some '\x0b'
  | 'f' => some '\x0c'
  | 'r' => some '\r'
  | 'e' => some '\x1b'
  | ' ' => some ' '
  | '"' => some '"'
  | '/' => some '/'
  | '\\' => some '\\'
  | 'N' => some '\u0085'
  | '_' => some '\u00a0'
  | 'L' => some '\u2028'
  | 'P' => some '\u2029'
  | _ => none

/-- The number of hexadecimal digits after an escape letter. -/
def escapeDigits? : Char → Option Nat
  | 'x' => some 2
  | 'u' => some 4
  | 'U' => some 8
  | _ => none

def hexDigit? (c : Char) : Option Nat :=
  if Text.isAsciiDigit c then some (c.toNat - '0'.toNat)
  else if 'a' ≤ c && c ≤ 'f' then some (c.toNat - 'a'.toNat + 10)
  else if 'A' ≤ c && c ≤ 'F' then some (c.toNat - 'A'.toNat + 10)
  else none

def hexNumber? : List Char → Option Nat :=
  List.foldl (fun n c => do return (← n) * 16 + (← hexDigit? c)) (some 0)

/-- Reads an escape: its value and its length. -/
def escape (c : Cursor) : Except Problem (Char × Nat) :=
  match escapeValue? (c.peekAt 1), escapeDigits? (c.peekAt 1) with
  | some v, _ => .ok (v, 2)
  | none, some n =>
    match hexNumber? ((c.rest.drop 2).take n) with
    | some code =>
      if code.isValidChar && (c.rest.drop 2).length ≥ n then .ok (Char.ofNat code, n + 2)
      else .error .badEscape
    | none => .error .badEscape
  | none, none => .error .badEscape

/-- Reads the characters of a quoted scalar up to a blank, a line break or the closing quote.
The flag tells whether an escaped line break was read. -/
def quotedRun (quote : Char) : Nat → Cursor → List Char →
    Except Problem (Cursor × List Char × Bool)
  | 0, c, run => .ok (c, run, false)
  | fuel + 1, c, run =>
    if isSpaceOrEnd c.peek then .ok (c, run, false)
    else if quote = '\'' && c.peek = '\'' && c.peekAt 1 = '\'' then
      quotedRun quote fuel (c.skip 2) ('\'' :: run)
    else if c.peek = quote then .ok (c, run, false)
    else if quote = '"' && c.peek = '\\' then
      if isBreak (c.peekAt 1) then .ok ((c.skip 1).skipBreak, run, true)
      else do
        let (v, n) ← escape c
        quotedRun quote fuel (c.skip n) (v :: run)
    else quotedRun quote fuel (c.skip 1) (c.peek :: run)

/-- Reads blanks and line breaks inside quotes. After an escaped line break the first of them
are dropped. -/
def quotedSpaces : Nat → Cursor → (dropping : Bool) → Gathered →
    Except Problem (Cursor × Gathered)
  | 0, c, _, p => .ok (c, p)
  | fuel + 1, c, dropping, p =>
    if isBreak c.peek then
      quotedSpaces fuel c.skipBreak dropping { p with spaces := [], breaks := p.breaks + 1 }
    else if isSpace c.peek then
      if dropping || p.breaks > 0 then
        if c.peek = '\t' && c.column < c.indent then .error .tabIndentation
        else quotedSpaces fuel (c.skipSpaces 1) dropping p
      else quotedSpaces fuel (c.skipSpaces 1) dropping { p with spaces := c.peek :: p.spaces }
    else .ok (c, p)

/-- The text of a quoted scalar with what was between its runs: line breaks after an escaped
one are all kept. -/
def Gathered.close (p : Gathered) (dropping : Bool) : Gathered :=
  if dropping then ⟨List.replicate p.breaks '\n' ++ p.text, [], 0⟩ else p.add []

/-- Reads the runs of a quoted scalar. Outside of brackets a line that continues it is
indented, unless the line break before was escaped; the closing quote may stand anywhere. -/
def quotedRuns (quote : Char) : Nat → Cursor → Gathered → Except Problem (Cursor × Gathered)
  | 0, _, _ => .error .unclosedQuote
  | fuel + 1, c, p => do
    if c.column = 0 && c.atDocumentMark then .error .unclosedQuote
    if c.peek = endMark then .error .unclosedQuote
    let (c, run, dropping) ← quotedRun quote (c.rest.length + 1) c []
    let p := { p with text := run ++ p.text }
    if c.peek = quote && !dropping then .ok (c, p)
    else
      let (c, p) ← quotedSpaces (c.rest.length + 1) c dropping p
      let continues := !dropping && p.breaks > 0 && c.peek ≠ quote
      if continues && !c.inFlow && c.column ≤ c.indent then .error .badIndentation
      quotedRuns quote fuel c (p.close dropping)

/-- Whether what follows a closing quote is fine. -/
def endsQuoted (c : Cursor) (startLine : Nat) : Bool :=
  let next := c.peek
  isBreakOrEnd next || (c.inFlow && (next = ',' || next = '\x7d' || next = ']'))
    || (next = ':' && (c.inFlow || startLine = c.line))

def quotedScalar (quote : Char) (c : Cursor) : Except Problem Cursor := do
  let c := { c.noteKeyStart with keyAllowed := false }
  let startLine := c.line
  let (c, p) ← quotedRuns quote (c.rest.length + 1) (c.skip 1) .empty
  let c ← skipToLineEnd (c.skip 1)
  if endsQuoted c startLine then
    let style := if quote = '"' then Style.doubleQuoted else .singleQuoted
    .ok (c.push (.scalar style p.value))
  else .error .contentAfterQuote

/-- What happens to the line breaks at the end of a block scalar. -/
inductive Chomping where
  | clip | strip | keep
  deriving Repr, DecidableEq

def chomping? : Char → Option Chomping
  | '+' => some .keep
  | '-' => some .strip
  | _ => none

/-- Reads the header after its indicator: the chomping and the stated indentation, in either
order. -/
def blockHeader (c : Cursor) : Except Problem (Cursor × Chomping × Nat) :=
  let digit (c : Cursor) : Except Problem (Cursor × Nat) :=
    if c.peek = '0' then .error .badBlockHeader
    else if Text.isAsciiDigit c.peek then .ok (c.skip 1, c.peek.toNat - '0'.toNat)
    else .ok (c, 0)
  match chomping? c.peek with
  | some ch => do
    let (c, n) ← digit (c.skip 1)
    return (c, ch, n)
  | none => do
    let (c, n) ← digit c
    match chomping? c.peek with
    | some ch => return (if n = 0 then c else c.skip 1, ch, n)
    | none => return (c, .clip, n)

/-- Skips the indentation of the lines up to the first with content, counting the empty
ones. -/
def skipIndentation (indent : Nat) : Nat → Cursor → Nat → Cursor × Nat
  | 0, c, breaks => (c, breaks)
  | fuel + 1, c, breaks =>
    let spaces := (c.rest.takeWhile (· = ' ')).length
    let c := c.skipSpaces (min spaces (indent - c.column))
    if isBreak c.peek then skipIndentation indent fuel c.skipBreak (breaks + 1)
    else (c, breaks)

/-- Finds the indentation from the first line with content; the result tells the widest. -/
def findIndentation : Nat → Cursor → (widest breaks : Nat) → Cursor × Nat × Nat
  | 0, c, widest, breaks => (c, widest, breaks)
  | fuel + 1, c, widest, breaks =>
    let c := c.skipSpaces (c.rest.takeWhile (· = ' ')).length
    let widest := max widest c.column
    if isBreak c.peek then findIndentation fuel c.skipBreak widest (breaks + 1)
    else (c, widest, breaks)

/-- The lines of a block scalar that were read: the text in reverse, whether the last line was
ended, and the empty lines after it. -/
structure BlockText where
  text : List Char
  ended : Bool
  breaks : Nat
  /-- Whether the last line starts with a blank. -/
  indented : Bool
  deriving Repr

/-- Adds a line. Between two lines that are not indented, folding turns the line break into a
space or, if empty lines follow, drops it. -/
def BlockText.add (b : BlockText) (folds : Bool) (line : List Char) : BlockText :=
  let indented := isSpace (line.headD endMark)
  let empties := List.replicate b.breaks '\n'
  let between :=
    if folds && b.ended && !b.indented && !indented then
      if b.breaks = 0 then [' '] else empties
    else (if b.ended then ['\n'] else []) ++ empties
  ⟨line.reverse ++ between ++ b.text, false, 0, indented⟩

def blockLines (folds : Bool) (indent : Nat) : Nat → Cursor → BlockText → Cursor × BlockText
  | 0, c, b => (c, b)
  | fuel + 1, c, b =>
    if c.column ≠ indent || c.peek = endMark || (indent = 0 && c.atDocumentMark) then (c, b)
    else
      let line := c.rest.takeWhile (!isBreakOrEnd ·)
      let c := c.skip line.length
      let b := b.add folds line
      if isBreak c.peek then
        let (c, breaks) := skipIndentation indent (c.rest.length + 1) c.skipBreak 0
        blockLines folds indent fuel c { b with ended := true, breaks }
      else (c, b)

/-- The value of a block scalar. -/
def BlockText.value (b : BlockText) (ch : Chomping) (endsDeep : Bool) : String :=
  let last := if ch = .strip then [] else
    (if b.ended then ['\n'] else []) ++ (if endsDeep then ['\n'] else [])
  let kept := if ch = .keep then List.replicate b.breaks '\n' else []
  String.ofList (b.text.reverse ++ last ++ kept)

/-- The value of a block scalar without any line of content. -/
def emptyBlock (ch : Chomping) (broken : Bool) (breaks : Nat) : String :=
  match ch with
  | .strip => ""
  | .clip => if broken then "\n" else ""
  | .keep => if !broken then "" else if breaks = 0 then "\n"
    else String.ofList (List.replicate breaks '\n')

def blockScalar (folds : Bool) (c : Cursor) : Except Problem Cursor := do
  let c := { c.noteKeyStart with keyAllowed := true }
  let style := if folds then Style.folded else .literal
  let (c, ch, stated) ← blockHeader (c.skip 1).undeepen
  let c ← skipToLineEnd c
  if !isBreakOrEnd c.peek then .error .badBlockHeader
  let broken := isBreak c.peek
  let c := if broken then c.skipBreak else c
  if c.peek = '\t' then .error .tabIndentation
  let fuel := c.rest.length + 1
  let (c, indent, breaks) :=
    if stated > 0 then
      let indent := if c.indent ≥ 0 then c.indent.toNat + stated else stated
      let (c, breaks) := skipIndentation indent fuel c 0
      (c, indent, breaks)
    else
      let (c, widest, breaks) := findIndentation fuel c 0 0
      let least := max widest (c.indent + 1).toNat
      (c, if c.indent > 0 then max least 1 else least, breaks)
  if c.peek = endMark then .ok (c.push (.scalar style (emptyBlock ch broken breaks)))
  else if c.column < indent && c.column > c.indent then .error .badIndentation
  else
    let (c, b) := blockLines folds indent fuel c ⟨[], false, breaks, false⟩
    let endsDeep := c.peek = endMark && c.column ≥ max indent 1
    .ok (c.push (.scalar style (b.value ch endsDeep)))

end RoutineBindings.Yaml
