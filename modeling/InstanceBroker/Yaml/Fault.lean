import InstanceBroker.Yaml.Place

namespace InstanceBroker.Yaml

inductive Problem
  -- tokens
  | keyWithoutColon | entryNotAllowed | keyNotAllowed | valueNotAllowed | strayCharacter
  | textAfterHeader | noDirectiveName | directiveNameEnd | unknownDirective
  | noVersionPoint | longVersion | noVersion
  | noBlank | noBlankOrBreak | noExclamation | noTagName | noTagClose
  | noOctet | leadingOctet | trailingOctet
  | noName
  | zeroIndentation | tabInIndentation | tabBeforeIndentation
  | markerInQuotes | unclosedQuotes | unknownEscape | noHexadecimal | noCodePoint
  | colonInWord
  -- grammar
  | noDocumentStart | duplicateVersion | unsupportedVersion | duplicateHandle | undefinedHandle
  | noContent | noEntry | noKey | noListEnd | noMapEnd
deriving DecidableEq, Repr

def Problem.text : Problem → String
  | keyWithoutColon => "could not find expected ':'"
  | entryNotAllowed => "block sequence entries are not allowed in this context"
  | keyNotAllowed => "mapping keys are not allowed in this context"
  | valueNotAllowed => "mapping values are not allowed in this context"
  | strayCharacter => "found character that cannot start any token"
  | textAfterHeader => "did not find expected comment or line break"
  | noDirectiveName => "could not find expected directive name"
  | directiveNameEnd => "found unexpected non-alphabetical character"
  | unknownDirective => "found unknown directive name"
  | noVersionPoint => "did not find expected digit or '.' character"
  | longVersion => "found extremely long version number"
  | noVersion => "did not find expected version number"
  | noBlank => "did not find expected whitespace"
  | noBlankOrBreak => "did not find expected whitespace or line break"
  | noExclamation => "did not find expected '!'"
  | noTagName => "did not find expected tag URI"
  | noTagClose => "did not find the expected '>'"
  | noOctet => "did not find URI escaped octet"
  | leadingOctet => "found an incorrect leading UTF-8 octet"
  | trailingOctet => "found an incorrect trailing UTF-8 octet"
  | noName => "did not find expected alphabetic or numeric character"
  | zeroIndentation => "found an indentation indicator equal to 0"
  | tabInIndentation => "found a tab character where an indentation space is expected"
  | tabBeforeIndentation => "found a tab character that violates indentation"
  | markerInQuotes => "found unexpected document indicator"
  | unclosedQuotes => "found unexpected end of stream"
  | unknownEscape => "found unknown escape character"
  | noHexadecimal => "did not find expected hexdecimal number"
  | noCodePoint => "found invalid Unicode character escape code"
  | colonInWord => "found unexpected ':'"
  | noDocumentStart => "did not find expected <document start>"
  | duplicateVersion => "found duplicate %YAML directive"
  | unsupportedVersion => "found incompatible YAML document"
  | duplicateHandle => "found duplicate %TAG directive"
  | undefinedHandle => "found undefined tag handle"
  | noContent => "did not find expected node content"
  | noEntry => "did not find expected '-' indicator"
  | noKey => "did not find expected key"
  | noListEnd => "did not find expected ',' or ']'"
  | noMapEnd => "did not find expected ',' or '".push '}' ++ "'"

inductive Context
  | simpleKey | nextToken | directive | versionDirective | handleDirective | handleName
  | handleEnd | expansion | tag | tagName | anchor | aliasName
  | blockScalar | quotedScalar | quotedEscape | plainScalar
  | node | blockNode | flowNode | blockSequence | blockMapping | flowSequence | flowMapping
deriving DecidableEq, Repr

def Context.text : Context → String
  | simpleKey => "while scanning a simple key"
  | nextToken => "while scanning for the next token"
  | directive => "while scanning a directive"
  | versionDirective => "while scanning a %YAML directive"
  | handleDirective => "while scanning a %TAG directive"
  | handleName => "while scanning a tag directive"
  | handleEnd => "while parsing a tag directive"
  | expansion => "while parsing a %TAG directive"
  | tag => "while scanning a tag"
  | tagName => "while parsing a tag"
  | anchor => "while scanning an anchor"
  | aliasName => "while scanning an alias"
  | blockScalar => "while scanning a block scalar"
  | quotedScalar => "while scanning a quoted scalar"
  | quotedEscape => "while parsing a quoted scalar"
  | plainScalar => "while scanning a plain scalar"
  | node => "while parsing a node"
  | blockNode => "while parsing a block node"
  | flowNode => "while parsing a flow node"
  | blockSequence => "while parsing a block collection"
  | blockMapping => "while parsing a block mapping"
  | flowSequence => "while parsing a flow sequence"
  | flowMapping => "while parsing a flow mapping"

/-- A problem at a place, met while reading something that begins at another. -/
structure Fault where
  problem : Problem
  place : Place
  context : Option (Context × Place) := none
deriving DecidableEq, Repr

/-- The very first place of a text is not shown, nor the same place twice. -/
def Fault.text (fault : Fault) : String :=
  let at_ (place : Place) := if place.isOrigin then "" else " at " ++ place.text
  fault.problem.text ++ at_ fault.place ++
    match fault.context with
    | none => ""
    | some (context, place) =>
      ", " ++ context.text ++ if place = fault.place then "" else at_ place

end InstanceBroker.Yaml
