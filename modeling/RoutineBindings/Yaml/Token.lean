/-!
# Tokens of YAML

What the text of a document consists of, and what can be wrong with it. The tokens for the
start and end of block collections and for keys are not written in the text: they follow
from the indentation and from where a colon stands.
-/
namespace RoutineBindings.Yaml

inductive Style where
  | plain | singleQuoted | doubleQuoted | literal | folded
  deriving Repr, DecidableEq

inductive Token where
  | directive
  | documentStart | documentEnd
  | blockSequence | blockMapping | blockEnd
  | flowSequence | flowSequenceEnd | flowMapping | flowMappingEnd
  | blockEntry | flowEntry
  | key | value
  | anchor (name : String)
  | alias (name : String)
  | tag (text : String)
  | scalar (style : Style) (text : String)
  | streamEnd
  deriving Repr, DecidableEq

/-- Why a text is no acceptable document. -/
inductive Problem where
  | badIndentation
  | tabIndentation
  | unexpectedCharacter (c : Char)
  | unclosedQuote
  | unclosedCollection
  | unmatchedBracket
  | badEscape
  | contentAfterQuote
  | contentAfterDocumentEnd
  | unseparatedComment
  | missingColon
  | misplacedKey
  | misplacedValue
  | misplacedEntry
  | emptyAnchor
  | badTag
  | badBlockHeader
  | expectedNode
  | expectedKey
  | expectedEntry
  | expectedSeparator
  | expectedDocumentStart
  | unknownAlias (name : String)
  | duplicateKey (name : String)
  | recursiveAlias (name : String)
  | manyAliases
  | tooDeep
  | noDocument
  | severalDocuments
  deriving Repr, DecidableEq

def Problem.message : Problem → String
  | .badIndentation => "the line is not indented like its block"
  | .tabIndentation => "a tab stands where indentation is expected"
  | .unexpectedCharacter c => "no token starts with '" ++ c.toString ++ "'"
  | .unclosedQuote => "a quoted scalar is not closed"
  | .unclosedCollection => "a bracket is not closed"
  | .unmatchedBracket => "a closing bracket has no opening one"
  | .badEscape => "a backslash starts no known escape"
  | .contentAfterQuote => "text follows a quoted scalar"
  | .contentAfterDocumentEnd => "text follows the end of the document"
  | .unseparatedComment => "no blank stands before a comment"
  | .missingColon => "a key has no colon"
  | .misplacedKey => "a key is not allowed here"
  | .misplacedValue => "a value is not allowed here"
  | .misplacedEntry => "a list entry is not allowed here"
  | .emptyAnchor => "an anchor or alias has no name"
  | .badTag => "a tag is malformed"
  | .badBlockHeader => "the header of a block scalar is malformed"
  | .expectedNode => "a value is expected"
  | .expectedKey => "a key is expected"
  | .expectedEntry => "a list entry is expected"
  | .expectedSeparator => "a comma or a closing bracket is expected"
  | .expectedDocumentStart => "a document start is expected"
  | .unknownAlias name => "the anchor '" ++ name ++ "' is not known"
  | .duplicateKey name => "the key '" ++ name ++ "' is given twice"
  | .recursiveAlias name => "the anchor '" ++ name ++ "' is used inside its own node"
  | .manyAliases => "too much of the document is aliases"
  | .tooDeep => "the document is nested too deeply"
  | .noDocument => "there is no document"
  | .severalDocuments => "there is more than one document"

end RoutineBindings.Yaml
