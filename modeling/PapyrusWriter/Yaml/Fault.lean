/-!
# Places and faults in YAML texts

A mark is a place in a text. A fault is a problem with its place and, where there is one, the
construct around it with the place where that starts. The very start of a text is not shown as a
place.
-/

namespace PapyrusWriter.Yaml

set_option autoImplicit false

/-- A place: the number of bytes, lines and characters of the line before it. -/
structure Mark where
  index : Nat
  line : Nat
  column : Nat
deriving DecidableEq, Inhabited

namespace Mark

def start : Mark := ⟨0, 0, 0⟩

def text (mark : Mark) : String :=
  "line " ++ toString (mark.line + 1) ++ " column " ++ toString (mark.column + 1)

/-- Whether two marks are the same place of the page. -/
def agrees (a b : Mark) : Bool := a.line == b.line && a.column == b.column

/-- The place as the end of a message; nothing at the start of a text. -/
def suffix (mark : Mark) : String :=
  if mark.agrees start then "" else " at " ++ mark.text

end Mark

/-- The construct in which a problem is found. -/
inductive Context where
  | nextToken
  | directive
  | versionDirective
  | tagDirective
  | tagDirectiveHandle
  | tagDirectiveHandleEnd
  | tagDirectiveUri
  | anchor
  | alias
  | tag
  | tagUri
  | blockScalar
  | quotedScalar
  | quotedEscape
  | plainScalar
  | simpleKey
  | node
  | blockNode
  | flowNode
  | blockCollection
  | blockMapping
  | flowSequence
  | flowMapping
deriving DecidableEq

namespace Context

def message : Context → String
  | .nextToken => "while scanning for the next token"
  | .directive => "while scanning a directive"
  | .versionDirective => "while scanning a %YAML directive"
  | .tagDirective => "while scanning a %TAG directive"
  | .tagDirectiveHandle => "while scanning a tag directive"
  | .tagDirectiveHandleEnd => "while parsing a tag directive"
  | .tagDirectiveUri => "while parsing a %TAG directive"
  | .anchor => "while scanning an anchor"
  | .alias => "while scanning an alias"
  | .tag => "while scanning a tag"
  | .tagUri => "while parsing a tag"
  | .blockScalar => "while scanning a block scalar"
  | .quotedScalar => "while scanning a quoted scalar"
  | .quotedEscape => "while parsing a quoted scalar"
  | .plainScalar => "while scanning a plain scalar"
  | .simpleKey => "while scanning a simple key"
  | .node => "while parsing a node"
  | .blockNode => "while parsing a block node"
  | .flowNode => "while parsing a flow node"
  | .blockCollection => "while parsing a block collection"
  | .blockMapping => "while parsing a block mapping"
  | .flowSequence => "while parsing a flow sequence"
  | .flowMapping => "while parsing a flow mapping"

end Context

inductive Problem where
  /-- A character that texts cannot hold, after so many bytes. -/
  | controlCharacter (offset : Nat)
  | noToken
  | misplacedEntry
  | misplacedKey
  | misplacedValue
  | missingColon
  | missingDirectiveName
  | badDirectiveName
  | unknownDirective
  | missingLineEnd
  | missingVersionNumber
  | longVersionNumber
  | missingVersionDot
  | missingSpace
  | missingSpaceOrLineEnd
  | missingTagMark
  | missingTagUri
  | missingTagEnd
  | badUriEscape
  | badUriLead
  | badUriTail
  | missingName
  | zeroIndent
  | tabInIndent
  | tabInPlain
  | documentMarkInScalar
  | endInScalar
  | unknownEscape
  | badHexEscape
  | badCodePoint
  | unexpectedColon
  | missingDocumentStart
  | duplicateVersion
  | incompatibleVersion
  | duplicateTag
  | undefinedTag
  | missingNode
  | missingEntryMark
  | missingKey
  | unfinishedFlowSequence
  | unfinishedFlowMapping
  | unknownAnchor
deriving DecidableEq

namespace Problem

def message : Problem → String
  | .controlCharacter 0 => "control characters are not allowed"
  | .controlCharacter offset =>
      "control characters are not allowed at position " ++ toString offset
  | .noToken => "found character that cannot start any token"
  | .misplacedEntry => "block sequence entries are not allowed in this context"
  | .misplacedKey => "mapping keys are not allowed in this context"
  | .misplacedValue => "mapping values are not allowed in this context"
  | .missingColon => "could not find expected ':'"
  | .missingDirectiveName => "could not find expected directive name"
  | .badDirectiveName => "found unexpected non-alphabetical character"
  | .unknownDirective => "found unknown directive name"
  | .missingLineEnd => "did not find expected comment or line break"
  | .missingVersionNumber => "did not find expected version number"
  | .longVersionNumber => "found extremely long version number"
  | .missingVersionDot => "did not find expected digit or '.' character"
  | .missingSpace => "did not find expected whitespace"
  | .missingSpaceOrLineEnd => "did not find expected whitespace or line break"
  | .missingTagMark => "did not find expected '!'"
  | .missingTagUri => "did not find expected tag URI"
  | .missingTagEnd => "did not find the expected '>'"
  | .badUriEscape => "did not find URI escaped octet"
  | .badUriLead => "found an incorrect leading UTF-8 octet"
  | .badUriTail => "found an incorrect trailing UTF-8 octet"
  | .missingName => "did not find expected alphabetic or numeric character"
  | .zeroIndent => "found an indentation indicator equal to 0"
  | .tabInIndent => "found a tab character where an indentation space is expected"
  | .tabInPlain => "found a tab character that violates indentation"
  | .documentMarkInScalar => "found unexpected document indicator"
  | .endInScalar => "found unexpected end of stream"
  | .unknownEscape => "found unknown escape character"
  | .badHexEscape => "did not find expected hexadecimal number"
  | .badCodePoint => "found invalid Unicode character escape code"
  | .unexpectedColon => "found unexpected ':'"
  | .missingDocumentStart => "did not find expected <document start>"
  | .duplicateVersion => "found duplicate %YAML directive"
  | .incompatibleVersion => "found incompatible YAML document"
  | .duplicateTag => "found duplicate %TAG directive"
  | .undefinedTag => "found undefined tag handle"
  | .missingNode => "did not find expected node content"
  | .missingEntryMark => "did not find expected '-' indicator"
  | .missingKey => "did not find expected key"
  | .unfinishedFlowSequence => "did not find expected ',' or ']'"
  | .unfinishedFlowMapping => "did not find expected ',' or '\x7d'"
  | .unknownAnchor => "unknown anchor"

end Problem

structure Fault where
  problem : Problem
  mark : Mark
  context : Option (Context × Mark) := none
deriving DecidableEq

namespace Fault

/-- The problem with its place, then the construct around it, whose place is shown if it is another
one. -/
def message (fault : Fault) : String :=
  fault.problem.message ++ fault.mark.suffix ++
    match fault.context with
    | none => ""
    | some (context, mark) =>
        ", " ++ context.message ++ (if mark.agrees fault.mark then "" else mark.suffix)

end Fault

end PapyrusWriter.Yaml
