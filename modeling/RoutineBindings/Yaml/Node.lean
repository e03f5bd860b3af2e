import RoutineBindings.Yaml.Tokens

/-!
# Documents

What a document says: scalars, sequences and mappings. A missing node is a plain `~`, an alias
stands for the anchored node, and no mapping gives a key twice. A text holds exactly one
document.
-/
namespace RoutineBindings.Yaml

inductive Node where
  | scalar (style : Style) (text : String)
  | sequence (items : List Node)
  | mapping (entries : List (Node × Node))
  deriving Repr

mutual
/-- Whether two nodes say the same, however their scalars are written. -/
def Node.same : Node → Node → Bool
  | .scalar _ a, .scalar _ b => a = b
  | .sequence as, .sequence bs => sameItems as bs
  | .mapping as, .mapping bs => sameEntries as bs
  | _, _ => false

def sameItems : List Node → List Node → Bool
  | [], [] => true
  | a :: as, b :: bs => a.same b && sameItems as bs
  | _, _ => false

def sameEntries : List (Node × Node) → List (Node × Node) → Bool
  | [], [] => true
  | (k, v) :: as, (l, w) :: bs => k.same l && v.same w && sameEntries as bs
  | _, _ => false
end

/-- A key that is given twice. -/
def duplicateKey? : List (Node × Node) → Option Node
  | [] => none
  | (k, _) :: es => if es.any (fun e => k.same e.1) then some k else duplicateKey? es

mutual
/-- How many scalars a node has, and two more for every collection. -/
def Node.size : Node → Nat
  | .scalar .. => 1
  | .sequence items => 2 + itemsSize items
  | .mapping entries => 2 + entriesSize entries

def itemsSize : List Node → Nat
  | [] => 0
  | n :: ns => n.size + itemsSize ns

def entriesSize : List (Node × Node) → Nat
  | [] => 0
  | (k, v) :: es => k.size + v.size + entriesSize es
end

/-- What stands for a missing node. -/
def Node.missing : Node := .scalar .plain "~"

/-- A missing node with an anchor or a tag. -/
def Node.empty : Node := .scalar .plain ""

/-- The node of a scalar. With an anchor, empty quotes are no different from a missing text. -/
def Node.ofScalar (style : Style) (text : String) (anchored : Bool) : Node :=
  if anchored && text = "" && (style = .singleQuoted || style = .doubleQuoted) then .empty
  else .scalar style text

/-- How many collections may stand in each other. -/
def deepestNode : Nat := 2000

/-- How much text the aliases of a document may stand for; see `Node.size`. -/
def largestReplay : Nat := 1000000

/-- The number of aliases that needs no anchors to go with. -/
def freeAliases : Nat := 99

/-- The number of aliases that one anchor allows. -/
def aliasesPerAnchor : Nat := 10

/-- How far the reading of nodes has come. -/
structure NodeState where
  /-- The tokens that are left. -/
  tokens : List Token
  /-- What stops the reading of tokens after these. -/
  problem : Problem
  /-- How many tokens are left at those that could still have become keys there. -/
  openKeys : List Nat
  /-- The number of collections around the next node. -/
  depth : Nat
  /-- The number of the node that each anchor was last given to. -/
  anchors : List (String × Nat)
  /-- The anchored nodes that are complete. -/
  nodes : List (Nat × Node)
  aliases : Nat
  /-- The size of the nodes that aliases stood for so far. -/
  replayed : Nat

abbrev NodeReader := StateT NodeState (Except Problem)

namespace NodeReader

def fail {α : Type} (p : Problem) : NodeReader α := fun _ => .error p

/-- The next token. -/
def peek : NodeReader Token := fun s =>
  match s.tokens with
  | t :: _ => .ok (t, s)
  | [] => .error s.problem

def skip : NodeReader Unit := fun s => .ok ((), { s with tokens := s.tokens.tail })

/-- Notes an anchor before its node is read, and numbers it. -/
def announce (name : String) : NodeReader Nat := fun s =>
  let number := s.anchors.length
  .ok (number, { s with anchors := (name, number) :: s.anchors })

/-- Reads an anchor and a tag, in either order: the number of the anchor and whether there
was a tag. -/
def properties : Nat → Option Nat → Bool → NodeReader (Option Nat × Bool)
  | 0, anchor, tagged => return (anchor, tagged)
  | fuel + 1, anchor, tagged => do
    match ← peek, anchor, tagged with
    | .anchor name, none, tagged => skip; properties fuel (some (← announce name)) tagged
    | .tag _, anchor, false => skip; properties fuel anchor true
    | _, anchor, tagged => return (anchor, tagged)

/-- Gives a complete node its anchor. -/
def anchored (anchor : Option Nat) (n : Node) : NodeReader Node := fun s =>
  match anchor with
  | some number => .ok (n, { s with nodes := (number, n) :: s.nodes })
  | none => .ok (n, s)

/-- The node of an alias. It has to be complete, so no node has an alias of its own. -/
def lookup (name : String) : NodeReader Node := fun s =>
  match s.anchors.lookup name with
  | none => .error (.unknownAlias name)
  | some number =>
    match s.nodes.lookup number with
    | none => .error (.recursiveAlias name)
    | some n =>
      let replayed := s.replayed + n.size
      if replayed > largestReplay then .error .manyAliases
      else .ok (n, { s with aliases := s.aliases + 1, replayed })

/-- Reads the inside of a collection. -/
def inside {α : Type} (read : NodeReader α) : NodeReader α := fun s =>
  if s.depth ≥ deepestNode then .error .tooDeep
  else (read { s with depth := s.depth + 1 }).map fun (a, t) => (a, { t with depth := s.depth })

/-- The mapping of some entries. -/
def mapping (entries : List (Node × Node)) : NodeReader Node :=
  match duplicateKey? entries with
  | some (.scalar _ text) => fail (.duplicateKey text)
  | some _ => fail (.duplicateKey "")
  | none => return .mapping entries

/-- What ends an empty key or value in a block mapping. -/
def endsBlockItem : Token → Bool
  | .key | .value | .blockEnd => true
  | _ => false

/-- What ends an empty key or value of a pair in a bracket. -/
def endsFlowItem : Token → Bool
  | .flowEntry | .flowSequenceEnd => true
  | _ => false

/-- What ends an empty key or value of a mapping in braces. -/
def endsFlowEntry : Token → Bool
  | .flowEntry | .flowMappingEnd => true
  | _ => false

mutual
/-- Reads a node. Block collections are read where blocks may stand, and in a mapping a
sequence may stand at the column of the mapping. -/
def node : Nat → (inBlock inMapping : Bool) → NodeReader Node
  | 0, _, _ => fail .expectedNode
  | fuel + 1, inBlock, inMapping => do
    let (anchor, tagged) ← properties 2 none false
    match ← peek with
    | .alias name =>
      if anchor.isSome || tagged then fail .expectedNode
      skip
      lookup name
    | .scalar style text => skip; anchored anchor (.ofScalar style text anchor.isSome)
    | .flowSequence => skip; anchored anchor (.sequence (← inside (flowItems fuel true)))
    | .flowMapping => skip; anchored anchor (← mapping (← inside (flowEntries fuel true)))
    | .blockEntry =>
      if inMapping then anchored anchor (.sequence (← inside (columnItems fuel)))
      else if anchor.isSome || tagged then anchored anchor .empty
      else fail .expectedNode
    | .blockSequence =>
      if inBlock then skip; anchored anchor (.sequence (← inside (blockItems fuel)))
      else if anchor.isSome || tagged then anchored anchor .empty
      else fail .expectedNode
    | .blockMapping =>
      if inBlock then skip; anchored anchor (← mapping (← inside (blockEntries fuel)))
      else if anchor.isSome || tagged then anchored anchor .empty
      else fail .expectedNode
    | _ => if anchor.isSome || tagged then anchored anchor .empty else fail .expectedNode

/-- The items of a sequence up to its end. -/
def blockItems : Nat → NodeReader (List Node)
  | 0 => fail .expectedEntry
  | fuel + 1 => do
    match ← peek with
    | .blockEntry =>
      skip
      let next ← peek
      let item ← if next = .blockEntry || next = .blockEnd then pure Node.missing
        else node fuel true false
      return item :: (← blockItems fuel)
    | .blockEnd => skip; return []
    | _ => fail .expectedEntry

/-- The items of a sequence at the column of its mapping. -/
def columnItems : Nat → NodeReader (List Node)
  | 0 => fail .expectedEntry
  | fuel + 1 => do
    match ← peek with
    | .blockEntry =>
      skip
      let next ← peek
      let item ← if next = .blockEntry || endsBlockItem next then pure Node.missing
        else node fuel true false
      return item :: (← columnItems fuel)
    | _ => return []

def blockEntries : Nat → NodeReader (List (Node × Node))
  | 0 => fail .expectedKey
  | fuel + 1 => do
    match ← peek with
    | .key =>
      skip
      let key ← if endsBlockItem (← peek) then pure Node.missing else node fuel true true
      let value ← blockValue fuel
      return (key, value) :: (← blockEntries fuel)
    | .value =>
      let value ← blockValue fuel
      return (.missing, value) :: (← blockEntries fuel)
    | .blockEnd => skip; return []
    | _ => fail .expectedKey

def blockValue : Nat → NodeReader Node
  | 0 => fail .expectedNode
  | fuel + 1 => do
    match ← peek with
    | .value => skip; if endsBlockItem (← peek) then pure Node.missing else node fuel true true
    | _ => return .missing

/-- The items of a sequence in brackets. A pair that was announced is a mapping. -/
def flowItems : Nat → (isFirst : Bool) → NodeReader (List Node)
  | 0, _ => fail .expectedSeparator
  | fuel + 1, isFirst => do
    if (← peek) = .flowSequenceEnd then skip; return []
    if !isFirst then separator
    match ← peek with
    | .flowSequenceEnd => skip; return []
    | .key =>
      skip
      let entry ← inside (announcedPair fuel)
      return .mapping [entry] :: (← flowItems fuel false)
    | _ =>
      let item ← node fuel false false
      return item :: (← flowItems fuel false)

/-- A pair in brackets after its announcement. What directly follows an announcement without a
key is passed over. -/
def announcedPair : Nat → NodeReader (Node × Node)
  | 0 => fail .expectedNode
  | fuel + 1 => do
    let next ← peek
    let key ← if next = .value || endsFlowItem next then do
        skip
        pure Node.missing
      else node fuel false false
    let value ← if (← peek) = .value then do
        skip
        if endsFlowItem (← peek) then pure Node.missing else node fuel false false
      else pure Node.missing
    return (key, value)

def flowEntries : Nat → (isFirst : Bool) → NodeReader (List (Node × Node))
  | 0, _ => fail .expectedSeparator
  | fuel + 1, isFirst => do
    if (← peek) = .flowMappingEnd then skip; return []
    if !isFirst then separator
    match ← peek with
    | .flowMappingEnd => skip; return []
    | .key | .value =>
      let entry ← flowPair fuel
      return entry :: (← flowEntries fuel false)
    | _ =>
      let key ← node fuel false false
      return (key, .missing) :: (← flowEntries fuel false)

/-- A key and a value in braces, of which either may be missing. -/
def flowPair : Nat → NodeReader (Node × Node)
  | 0 => fail .expectedNode
  | fuel + 1 => do
    let key ← if (← peek) = .key then do
        skip
        let next ← peek
        if next = .value || endsFlowEntry next then pure Node.missing else node fuel false false
      else pure Node.missing
    let value ← if (← peek) = .value then do
        skip
        if endsFlowEntry (← peek) then pure Node.missing else node fuel false false
      else pure Node.missing
    return (key, value)

def separator : NodeReader Unit := do
  if (← peek) = .flowEntry then skip else fail .expectedSeparator
end

/-- Reads the first document. -/
def document (fuel : Nat) : NodeReader Node := do
  modify fun s => { s with tokens := s.tokens.dropWhile (· = .documentEnd) }
  match ← peek with
  | .streamEnd => fail .noDocument
  | .directive | .documentStart =>
    modify fun s => { s with tokens := s.tokens.dropWhile (· = .directive) }
    if (← peek) ≠ .documentStart then fail .expectedDocumentStart
    skip
    match ← peek with
    | .directive | .documentStart | .documentEnd | .streamEnd => return .missing
    | _ => node fuel true false
  | _ => node fuel true false

/-- Whether the next token or one before it could still have become a key when the reading of
tokens stopped. Such a token is not known to be there. -/
def isUndecided : NodeReader Bool := fun s =>
  .ok (s.openKeys.any (s.tokens.length ≤ ·), s)

/-- Refuses another document after `...`. Text that cannot be read up to its first token, and
directives without a document, are not looked at. -/
def noFurtherDocument : NodeReader Unit := do
  modify fun s => { s with tokens := s.tokens.dropWhile (· = .documentEnd) }
  let undecided ← isUndecided
  match (← get).tokens with
  | [] | .streamEnd :: _ => return
  | .directive :: ts =>
    if (ts.dropWhile (· = .directive)).head? = some .documentStart then fail .severalDocuments
  | _ => if !undecided then fail .severalDocuments

/-- No other document follows. Without `...` what starts none is not looked at either, but
its first token has to be one. -/
def finish : NodeReader Unit := do
  let t ← peek
  if ← isUndecided then fail (← get).problem
  match t with
  | .documentEnd => noFurtherDocument
  | .documentStart => fail .severalDocuments
  | .directive => fail .expectedDocumentStart
  | _ => return

/-- Many aliases go with many anchors. -/
def limitAliases : NodeReader Unit := do
  let s ← get
  if s.aliases > freeAliases && s.aliases > aliasesPerAnchor * s.anchors.length then
    fail .manyAliases

end NodeReader

/-- The document that a text holds. -/
def Node.ofText (text : String) : Except Problem Node :=
  let run := tokens text
  let count := run.tokens.length
  let state : NodeState :=
    { tokens := run.tokens, problem := run.problem.getD .noDocument,
      openKeys := run.openKeys.map (count - ·), depth := 0, anchors := [], nodes := [],
      aliases := 0, replayed := 0 }
  let reader : NodeReader Node := do
    let n ← NodeReader.document (3 * count + 3)
    NodeReader.finish
    NodeReader.limitAliases
    return n
  (reader.run state).map (·.1)

end RoutineBindings.Yaml
