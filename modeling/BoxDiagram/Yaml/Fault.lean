/-
Module: BoxDiagram.Yaml.Fault
Purpose: Places in a source text, and what can be wrong with the text as YAML.
Main exports: Mark, Problem, Activity, SourceFault, SourceFault.message
-/

namespace BoxDiagram.Yaml

/-- A place in a text: bytes before it, lines before it, characters before it in its line. -/
structure Mark where
  index : Nat
  line : Nat
  column : Nat
deriving Repr, DecidableEq, Inhabited

namespace Mark

def start : Mark := ⟨0, 0, 0⟩

/-- Is this the first character of the first line? -/
def isFirst (m : Mark) : Bool := m.line == 0 && m.column == 0

/-- The place for a reader, who counts from one. -/
def text (m : Mark) : String := "line " ++ toString (m.line + 1) ++ " column " ++ toString (m.column + 1)

/-- ` at line … column …`, or nothing for the beginning. -/
def suffix (m : Mark) : String := if m.isFirst then "" else " at " ++ m.text

end Mark

/-- What is wrong. -/
inductive Problem where
  | controlCharacter
  | missingColon
  | blockEntryNotAllowed
  | mappingKeyNotAllowed
  | mappingValueNotAllowed
  | noToken
  | unknownDirective
  | directiveTail
  | directiveName
  | nonAlphabetic
  | versionPoint
  | longVersion
  | noVersion
  | noWhitespace
  | noWhitespaceOrBreak
  | anchorName
  | tagClose
  | noExclamation
  | noTagUri
  | noEscapedOctet
  | leadingOctet
  | trailingOctet
  | zeroIndentation
  | scalarTail
  | tabAsIndentation
  | documentIndicator
  | endOfStream
  | unknownEscape
  | notHexadecimal
  | invalidCodePoint
  | plainColon
  | tabInIndentation
  | noDocumentStart
  | duplicateVersion
  | incompatibleVersion
  | duplicateTagDirective
  | undefinedTagHandle
  | noContent
  | noDash
  | noKey
  | noCommaOrBracket
  | noCommaOrBrace
deriving Repr, DecidableEq, Inhabited

def Problem.text : Problem → String
  | controlCharacter => "control characters are not allowed"
  | missingColon => "could not find expected ':'"
  | blockEntryNotAllowed => "block sequence entries are not allowed in this context"
  | mappingKeyNotAllowed => "mapping keys are not allowed in this context"
  | mappingValueNotAllowed => "mapping values are not allowed in this context"
  | noToken => "found character that cannot start any token"
  | unknownDirective => "found unknown directive name"
  | directiveTail => "did not find expected comment or line break"
  | directiveName => "could not find expected directive name"
  | nonAlphabetic => "found unexpected non-alphabetical character"
  | versionPoint => "did not find expected digit or '.' character"
  | longVersion => "found extremely long version number"
  | noVersion => "did not find expected version number"
  | noWhitespace => "did not find expected whitespace"
  | noWhitespaceOrBreak => "did not find expected whitespace or line break"
  | anchorName => "did not find expected alphabetic or numeric character"
  | tagClose => "did not find the expected '>'"
  | noExclamation => "did not find expected '!'"
  | noTagUri => "did not find expected tag URI"
  | noEscapedOctet => "did not find URI escaped octet"
  | leadingOctet => "found an incorrect leading UTF-8 octet"
  | trailingOctet => "found an incorrect trailing UTF-8 octet"
  | zeroIndentation => "found an indentation indicator equal to 0"
  | scalarTail => "did not find expected comment or line break"
  | tabAsIndentation => "found a tab character where an indentation space is expected"
  | documentIndicator => "found unexpected document indicator"
  | endOfStream => "found unexpected end of stream"
  | unknownEscape => "found unknown escape character"
  | notHexadecimal => "did not find expected hexdecimal number"
  | invalidCodePoint => "found invalid Unicode character escape code"
  | plainColon => "found unexpected ':'"
  | tabInIndentation => "found a tab character that violates indentation"
  | noDocumentStart => "did not find expected <document start>"
  | duplicateVersion => "found duplicate %YAML directive"
  | incompatibleVersion => "found incompatible YAML document"
  | duplicateTagDirective => "found duplicate %TAG directive"
  | undefinedTagHandle => "found undefined tag handle"
  | noContent => "did not find expected node content"
  | noDash => "did not find expected '-' indicator"
  | noKey => "did not find expected key"
  | noCommaOrBracket => "did not find expected ',' or ']'"
  | noCommaOrBrace => "did not find expected ',' or '\x7d'"

/-- What was being read when the problem came up. -/
inductive Activity where
  | nextToken
  | simpleKey
  | directive
  | versionDirective
  | tagDirectiveHandle
  | tagDirectiveRest
  | tagDirectiveUri
  | anchor
  | reference
  | tag
  | tagUri
  | blockScalar
  | quotedScalar
  | quotedEscape
  | plainScalar
  | node
  | blockNode
  | flowNode
  | blockCollection
  | blockMapping
  | flowSequence
  | flowMapping
deriving Repr, DecidableEq, Inhabited

def Activity.text : Activity → String
  | nextToken => "while scanning for the next token"
  | simpleKey => "while scanning a simple key"
  | directive => "while scanning a directive"
  | versionDirective => "while scanning a %YAML directive"
  | tagDirectiveHandle => "while scanning a tag directive"
  | tagDirectiveRest => "while scanning a %TAG directive"
  | tagDirectiveUri => "while parsing a %TAG directive"
  | anchor => "while scanning an anchor"
  | reference => "while scanning an alias"
  | tag => "while scanning a tag"
  | tagUri => "while parsing a tag"
  | blockScalar => "while scanning a block scalar"
  | quotedScalar => "while scanning a quoted scalar"
  | quotedEscape => "while parsing a quoted scalar"
  | plainScalar => "while scanning a plain scalar"
  | node => "while parsing a node"
  | blockNode => "while parsing a block node"
  | flowNode => "while parsing a flow node"
  | blockCollection => "while parsing a block collection"
  | blockMapping => "while parsing a block mapping"
  | flowSequence => "while parsing a flow sequence"
  | flowMapping => "while parsing a flow mapping"

/-- A fault in a source text: the problem, its place, and what was being read since where.  A forbidden
character is told by its number of bytes before it instead of a place. -/
structure SourceFault where
  problem : Problem
  mark : Mark
  offset : Nat
  context : Option (Activity × Mark)
deriving Repr, DecidableEq, Inhabited

namespace SourceFault

def bare (problem : Problem) (mark : Mark) : SourceFault := ⟨problem, mark, 0, none⟩

/-- A fault at a place, in something that began at `since`. -/
def within (activity : Activity) (since : Mark) (problem : Problem) (mark : Mark) : SourceFault :=
  ⟨problem, mark, 0, some (activity, since)⟩

/-- A forbidden character after `offset` bytes. -/
def forbidden (offset : Nat) : SourceFault := ⟨.controlCharacter, .start, offset, none⟩

/-- The place of the problem; nothing for the beginning of the text. -/
def place (f : SourceFault) : String :=
  if !f.mark.isFirst then f.mark.suffix
  else if f.offset != 0 then " at position " ++ toString f.offset
  else ""

/-- The text of a fault.  The place of the context is left out when it is the place of the problem. -/
def message (f : SourceFault) : String :=
  f.problem.text ++ f.place ++
    match f.context with
    | none => ""
    | some (activity, since) =>
        ", " ++ activity.text ++
          if since.line == f.mark.line && since.column == f.mark.column then "" else since.suffix

end SourceFault

end BoxDiagram.Yaml
