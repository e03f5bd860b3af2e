import RoutineBindings.Yaml.Token

/-!
# Reading position

The state of reading tokens from a text: the position, the tokens so far, the enclosing
indentations and brackets, and the places where a key may turn out to have started. A key is
only recognised by the colon after it, so its token is put in afterwards.
-/
namespace RoutineBindings.Yaml

/-- What stands for the end of the text. -/
def endMark : Char := '\x00'

def isBreak (c : Char) : Bool := c = '\n' || c = '\r'

def isSpace (c : Char) : Bool := c = ' ' || c = '\t'

def isBreakOrEnd (c : Char) : Bool := isBreak c || c = endMark

def isSpaceOrEnd (c : Char) : Bool := isSpace c || isBreakOrEnd c

def isFlowIndicator (c : Char) : Bool :=
  c = ',' || c = '[' || c = ']' || c = '\x7b' || c = '\x7d'

/-- A place where a key may have started. -/
structure KeyStart where
  possible : Bool
  /-- Whether what started there can be nothing but a key. -/
  required : Bool
  tokenNumber : Nat
  index : Nat
  line : Nat
  column : Nat
  deriving Repr

/-- An enclosing indentation. Only a block one is closed by a token of its own. -/
structure Enclosing where
  indent : Int
  isBlock : Bool
  deriving Repr

structure Cursor where
  rest : List Char
  index : Nat
  line : Nat
  column : Nat
  tokens : Array Token
  indent : Int
  enclosing : List Enclosing
  /-- How many brackets and braces are open. -/
  depth : Nat
  /-- For every open bracket, innermost first: how many brackets and braces were open at the
  colon of the pair that is being read as a mapping of its own, if there is one. -/
  ownPairs : List (Option Nat)
  /-- Whether a pair in a bracket needs no mapping of its own, because a brace or a question
  mark came after the last pair that had one. -/
  pairsAnnounced : Bool
  /-- One place per open bracket and one outside of all, innermost first. -/
  keyStarts : List KeyStart
  keyAllowed : Bool
  /-- Whether only white space was read on the current line. -/
  atLineStart : Bool
  /-- The index at which a colon needs no blank after it. -/
  adjacentValueAt : Option Nat
  deriving Repr

def KeyStart.impossible : KeyStart := ⟨false, false, 0, 0, 0, 0⟩

def Cursor.start (text : List Char) : Cursor :=
  { rest := text, index := 0, line := 0, column := 0, tokens := #[], indent := -1,
    enclosing := [], depth := 0, ownPairs := [], pairsAnnounced := false,
    keyStarts := [.impossible], keyAllowed := true, atLineStart := true,
    adjacentValueAt := none }

namespace Cursor

/-- The next character. -/
def peek (c : Cursor) : Char := c.rest.headD endMark

/-- The character at an offset. -/
def peekAt (c : Cursor) (n : Nat) : Char := (c.rest.drop n).headD endMark

def inFlow (c : Cursor) : Bool := c.depth > 0

/-- Moves over characters of the current line that count as white space. -/
def skipSpaces (c : Cursor) (n : Nat) : Cursor :=
  { c with rest := c.rest.drop n, index := c.index + n, column := c.column + n }

/-- Moves over characters of the current line. -/
def skip (c : Cursor) (n : Nat) : Cursor := { c.skipSpaces n with atLineStart := false }

/-- Moves to the next line. -/
def skipBreak (c : Cursor) : Cursor :=
  let n := if c.peek = '\r' && c.peekAt 1 = '\n' then 2 else 1
  { c with rest := c.rest.drop n, index := c.index + n, line := c.line + 1, column := 0,
           atLineStart := true }

def push (c : Cursor) (t : Token) : Cursor := { c with tokens := c.tokens.push t }

/-- Puts a token in before the one with the given number. -/
def insertToken (c : Cursor) (number : Nat) (t : Token) : Cursor :=
  { c with tokens := c.tokens.insertIdxIfInBounds number t }

/-- Whether a mark of three equal characters stands here alone. -/
def atMark (c : Cursor) (m : Char) : Bool :=
  c.peek = m && c.peekAt 1 = m && c.peekAt 2 = m && isSpaceOrEnd (c.peekAt 3)

def atDocumentMark (c : Cursor) : Bool := c.atMark '-' || c.atMark '.'

/-- Opens a block collection at a column, if it is deeper than the enclosing block. -/
def openBlock (c : Cursor) (column : Nat) (number : Option Nat) (t : Token) : Cursor :=
  if c.inFlow then c
  else
    let c := match c.enclosing with
      | e :: es =>
        if c.indent ≤ Int.ofNat column && !e.isBlock then { c with indent := e.indent, enclosing := es }
        else c
      | [] => c
    if c.indent < Int.ofNat column then
      let c := { c with enclosing := ⟨c.indent, true⟩ :: c.enclosing, indent := column }
      match number with
      | some n => if n = c.tokens.size then c.push t else c.insertToken n t
      | none => c.push t
    else c

/-- Asks for content to stand one column deeper, without opening a block. -/
def deepen (c : Cursor) : Cursor :=
  match c.enclosing with
  | e :: _ =>
    if !c.inFlow && e.isBlock then
      { c with enclosing := ⟨c.indent, false⟩ :: c.enclosing, indent := c.indent + 1 }
    else c
  | [] => c

/-- Takes back what `deepen` asked for. -/
def undeepen (c : Cursor) : Cursor :=
  match c.enclosing with
  | e :: es => if e.isBlock then c else { c with indent := e.indent, enclosing := es }
  | [] => c

/-- Closes the blocks that are deeper than a column, innermost first. -/
def closeFrom (column : Int) : List Enclosing → Cursor → Cursor
  | [], c => c
  | e :: es, c =>
    if c.indent > column then
      let c := { c with indent := e.indent, enclosing := es }
      closeFrom column es (if e.isBlock then c.push .blockEnd else c)
    else c

def closeBlocks (c : Cursor) (column : Int) : Cursor :=
  if c.inFlow then c else closeFrom column c.enclosing c

def withKeyStart (c : Cursor) (k : KeyStart) : Cursor :=
  { c with keyStarts := k :: c.keyStarts.tail }

def keyStart (c : Cursor) : KeyStart := c.keyStarts.headD .impossible

/-- Notes that a key may start here. -/
def noteKeyStart (c : Cursor) : Cursor :=
  if c.keyAllowed then
    let inBlock := (c.enclosing.head?.map (·.isBlock)).getD false
    c.withKeyStart
      { possible := true
        required := !c.inFlow && c.indent = c.column && inBlock
        tokenNumber := c.tokens.size, index := c.index, line := c.line, column := c.column }
  else c

/-- Gives up the key that may have started; one that had to be a key is an error. -/
def dropKeyStart (c : Cursor) : Except Problem Cursor :=
  let k := c.keyStart
  if k.possible && k.required then .error .missingColon
  else .ok (c.withKeyStart { k with possible := false })

/-- Outside of brackets a key stays on its line and is not long. -/
def expireKeyStarts (c : Cursor) : Except Problem Cursor :=
  if c.inFlow then .ok c
  else
    let expired (k : KeyStart) : Bool :=
      k.possible && (k.line < c.line || k.index + 1024 < c.index)
    if c.keyStarts.any (fun k => expired k && k.required) then .error .missingColon
    else
      let kept (k : KeyStart) := if expired k then { k with possible := false } else k
      .ok { c with keyStarts := c.keyStarts.map kept }

end Cursor
end RoutineBindings.Yaml
