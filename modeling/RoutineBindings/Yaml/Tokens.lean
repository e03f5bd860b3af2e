import RoutineBindings.Yaml.Scalar

/-!
# Reading tokens

Each step reads the next token of a text. Before it the blocks that end here are closed: a
block ends where a line starts to the left of it. A colon makes what stands before it on its
line a key, so the tokens of the key and of its block go in front of what was read there.
-/
namespace RoutineBindings.Yaml

namespace Cursor

/-- Moves over blanks, comments and line breaks to the next token. -/
def skipToToken : Nat → Cursor → Except Problem Cursor
  | 0, c => .ok c
  | fuel + 1, c =>
    if c.peek = '\t' && !c.enclosing.isEmpty && c.atLineStart
        && Int.ofNat c.column < c.indent then do
      let c ← skipToLineEnd c
      if isBreakOrEnd c.peek then skipToToken fuel c else .error .tabIndentation
    else if isSpace c.peek then skipToToken fuel (c.skipSpaces 1)
    else if isBreak c.peek then
      skipToToken fuel { c.skipBreak with keyAllowed := c.keyAllowed || !c.inFlow }
    else if c.peek = '#' then
      skipToToken fuel (c.skipSpaces (c.rest.takeWhile (!isBreakOrEnd ·)).length)
    else .ok c

def toToken (c : Cursor) : Except Problem Cursor := c.skipToToken (c.rest.length + 1)

def allowKey (c : Cursor) (allowed : Bool) : Cursor := { c with keyAllowed := allowed }

/-- The end of the text closes all blocks. -/
def streamEnd (c : Cursor) : Except Problem Cursor :=
  if c.keyStarts.any fun k => k.possible && k.required then .error .missingColon
  else if c.inFlow then .error .unclosedCollection
  else .ok ((c.closeBlocks (-1)).push .streamEnd)

/-- A directive takes the rest of its line. -/
def directive (c : Cursor) : Except Problem Cursor := do
  let c ← (c.closeBlocks (-1)).dropKeyStart
  return ((c.allowKey false).skip (c.rest.takeWhile (!isBreakOrEnd ·)).length).push .directive

def documentMark (c : Cursor) (t : Token) : Except Problem Cursor := do
  let c ← (c.closeBlocks (-1)).dropKeyStart
  return ((c.allowKey false).skip 3).push t

def documentEnd (c : Cursor) : Except Problem Cursor := do
  let c ← skipToLineEnd (← c.documentMark .documentEnd)
  if isBreakOrEnd c.peek then .ok c else .error .contentAfterDocumentEnd

/-- The number of brackets and braces that may be open at once. -/
def deepestFlow : Nat := 255

def openFlow (c : Cursor) (t : Token) : Except Problem Cursor :=
  if c.depth ≥ deepestFlow then .error .tooDeep
  else
    let c := c.noteKeyStart.deepen
    let c := { c with depth := c.depth + 1, keyStarts := .impossible :: c.keyStarts }
    let c := if t = .flowMapping then { c with pairsAnnounced := true }
      else { c with ownPairs := none :: c.ownPairs }
    skipToLineEnd (((c.allowKey true).skip 1).push t)

/-- Ends the pair that stands in a bracket as a mapping of its own, if this is its end. -/
def endOwnPair (c : Cursor) : Cursor :=
  if c.ownPairs.head? = some (some c.depth) then
    { c with ownPairs := none :: c.ownPairs.tail, pairsAnnounced := false }.push .flowMappingEnd
  else c

def closeFlow (c : Cursor) (t : Token) : Except Problem Cursor := do
  let c ← c.dropKeyStart
  if !c.inFlow then .error .unmatchedBracket
  let c := if t = .flowSequenceEnd then
      let c := c.endOwnPair
      { c with ownPairs := c.ownPairs.tail }
    else c
  let c := { c with depth := c.depth - 1, keyStarts := c.keyStarts.tail }
  let c ← skipToLineEnd (((c.allowKey false).skip 1).push t)
  return if c.inFlow then { c with adjacentValueAt := some c.index } else c

def flowEntry (c : Cursor) : Except Problem Cursor := do
  let c ← c.dropKeyStart
  skipToLineEnd (((c.allowKey true).endOwnPair.skip 1).push .flowEntry)

/-- A dash opens a list, unless it stands in one at this column. -/
def blockEntry (c : Cursor) : Except Problem Cursor := do
  if c.inFlow || !c.keyAllowed then .error .misplacedEntry
  let column := c.column
  let c := (c.skip 1).openBlock column none .blockSequence
  let tabbed := (c.rest.takeWhile isSpace).contains '\t'
  let c ← skipToLineEnd c
  if tabbed && c.peek = '-' && isSpaceOrEnd (c.peekAt 1) then .error .tabIndentation
  let c := if isBreak c.peek || isFlowIndicator c.peek then c.deepen else c
  let c ← c.dropKeyStart
  return (c.allowKey true).push .blockEntry

/-- Moves from a question mark to its key, over spaces, line breaks and comments. -/
def skipToKey : Nat → Cursor → Cursor
  | 0, c => c
  | fuel + 1, c =>
    if c.peek = ' ' then skipToKey fuel (c.skipSpaces 1)
    else if isBreak c.peek then
      skipToKey fuel { c.skipBreak with keyAllowed := c.keyAllowed || !c.inFlow }
    else if c.peek = '#' then
      skipToKey fuel (c.skipSpaces (c.rest.takeWhile (!isBreakOrEnd ·)).length)
    else c

/-- A question mark announces a key. -/
def explicitKey (c : Cursor) : Except Problem Cursor := do
  if !c.inFlow && !c.keyAllowed then .error .misplacedKey
  let c := if c.inFlow then { c with pairsAnnounced := true }
    else c.openBlock c.column none .blockMapping
  let c := ((← c.dropKeyStart).allowKey !c.inFlow).skip 1
  if c.peek = endMark then .error .expectedKey
  let c := skipToKey (c.rest.length + 1) c
  if c.peek = '\t' then .error .tabIndentation
  return c.push .key

/-- Whether a character needs a blank before it after a colon; a tab is not enough. -/
def needsBlank (c : Char) : Bool :=
  Text.isAsciiUpper c || Text.isAsciiLower c || Text.isAsciiDigit c || c = '_' || c = '-'

/-- A colon: what stands before it on its line becomes a key, and otherwise it follows a key
that was announced or is empty. A pair in a bracket that nothing announced is a mapping of its
own. -/
def colon (c : Cursor) : Except Problem Cursor := do
  let k := c.keyStart
  let column := c.column
  let line := c.line
  let isOwn := !c.ownPairs.isEmpty && !c.pairsAnnounced
  let c := if isOwn then { c with ownPairs := some c.depth :: c.ownPairs.tail } else c
  let c := c.skip 1
  let blanks := c.rest.takeWhile isSpace
  let c ← if c.peek = '\t' then skipToLineEnd c else .ok c
  if !blanks.isEmpty && blanks.all (· = '\t') && needsBlank c.peek then .error .tabIndentation
  if k.possible then
    if isOwn && k.line < line then .error .misplacedValue
    let c := c.insertToken k.tokenNumber .key
    let c := if isOwn then c.insertToken k.tokenNumber .flowMapping
      else c.openBlock k.column k.tokenNumber .blockMapping
    let c := c.deepen.withKeyStart { k with possible := false }
    return (c.allowKey false).push .value
  else
    if !c.inFlow && !c.keyAllowed then .error .misplacedValue
    let c := if isOwn then c.push .flowMapping else c.openBlock column none .blockMapping
    return (c.deepen.allowKey !c.inFlow).push .value

/-- A colon inside brackets that no blank follows. -/
def flowColon (c : Cursor) : Except Problem Cursor :=
  if c.adjacentValueAt ≠ some c.index && (c.peekAt 1 = '[' || c.peekAt 1 = '\x7b') then
    .error .misplacedValue
  else c.colon

def isNameChar (c : Char) : Bool := !isSpaceOrEnd c && !isFlowIndicator c && c ≠ '\ufeff'

/-- An anchor or alias. -/
def reference (c : Cursor) (make : String → Token) : Except Problem Cursor :=
  let c := (c.noteKeyStart.allowKey false).skip 1
  let name := c.rest.takeWhile isNameChar
  if name.isEmpty then .error .emptyAnchor
  else .ok ((c.skip name.length).push (make (String.ofList name)))

/-- A tag ends at a blank, or inside brackets at one of their marks. -/
def tag (c : Cursor) : Except Problem Cursor :=
  let c := c.noteKeyStart.allowKey false
  let verbatim := c.peekAt 1 = '<'
  let text := if verbatim then c.rest.takeWhile (fun x => !isSpaceOrEnd x && x ≠ '>') ++ ['>']
    else c.rest.takeWhile fun x => !isSpaceOrEnd x && !isFlowIndicator x
  let closed := !verbatim || c.peekAt (text.length - 1) = '>'
  let c := (c.skip text.length).push (.tag (String.ofList text))
  if closed && (isSpaceOrEnd c.peek || (c.inFlow && isFlowIndicator c.peek)) then .ok c
  else .error .badTag

/-- A quoted scalar; a colon right after it needs no blank. -/
def quoted (c : Cursor) (quote : Char) : Except Problem Cursor := do
  let c ← (← quotedScalar quote c).toToken
  return { c with adjacentValueAt := some c.index }

/-- Reads the token that starts at this character. -/
def token (c : Cursor) : Except Problem Cursor :=
  let separated := isSpaceOrEnd (c.peekAt 1)
  let adjacent := c.inFlow && (isFlowIndicator (c.peekAt 1) || c.adjacentValueAt = some c.index)
  match c.peek with
  | '[' => c.openFlow .flowSequence
  | '\x7b' => c.openFlow .flowMapping
  | ']' => c.closeFlow .flowSequenceEnd
  | '\x7d' => c.closeFlow .flowMappingEnd
  | ',' => c.flowEntry
  | '-' => if separated then c.blockEntry else plainScalar c
  | '?' => if separated then c.explicitKey else plainScalar c
  | ':' => if separated then c.colon else if adjacent then c.flowColon else plainScalar c
  | '*' => c.reference .alias
  | '&' => c.reference .anchor
  | '!' => c.tag
  | '|' => if c.inFlow then plainScalar c else blockScalar false c
  | '>' => if c.inFlow then plainScalar c else blockScalar true c
  | '\'' => c.quoted '\''
  | '"' => c.quoted '"'
  | '%' | '@' | '\x60' => .error (.unexpectedCharacter c.peek)
  | _ => plainScalar c

/-- Whether a character is a mark inside brackets that may stand left of their indentation. -/
def mayStandLeft (c : Char) : Bool := c = ']' || c = '\x7d' || c = ','

/-- Reads the next token. -/
def next (c : Cursor) : Except Problem Cursor := do
  let c ← (← c.toToken).expireKeyStarts
  let c := c.closeBlocks c.column
  if c.peek = endMark then c.streamEnd
  else if c.column = 0 && c.peek = '%' then c.directive
  else if c.column = 0 && c.atMark '-' then c.documentMark .documentStart
  else if c.column = 0 && c.atMark '.' then c.documentEnd
  else if Int.ofNat c.column < c.indent && !(c.inFlow && mayStandLeft c.peek) then
    .error .badIndentation
  else c.token

/-- The numbers of the tokens that a later colon can still make keys. -/
def openKeys (c : Cursor) : List Nat :=
  let starts := match c.expireKeyStarts with
    | .ok d => d.keyStarts
    | .error _ => c.keyStarts
  (starts.filter (·.possible)).map (·.tokenNumber)

end Cursor

/-- The tokens of a text, as far as they can be read, and what stops the reading there. -/
structure TokenRun where
  tokens : List Token
  problem : Option Problem
  /-- The numbers of the tokens that could still have become keys there. -/
  openKeys : List Nat
  deriving Repr

/-- Reads tokens up to the end of the text. -/
def tokensFrom : Nat → Cursor → TokenRun
  | 0, c => ⟨c.tokens.toList, none, []⟩
  | fuel + 1, c =>
    if c.tokens.back? = some .streamEnd then ⟨c.tokens.toList, none, []⟩
    else match c.next with
      | .ok d => tokensFrom fuel d
      | .error p => ⟨c.tokens.toList, some p, c.openKeys⟩

/-- The tokens of a text. A byte order mark in front does not count. -/
def tokens (text : String) : TokenRun :=
  let cs := match text.toList with
    | '\ufeff' :: cs => cs
    | cs => cs
  tokensFrom (cs.length + 2) (.start cs)

end RoutineBindings.Yaml
