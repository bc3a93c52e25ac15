import ModeSwitch.Yaml.Position

/-! What is wrong with a text that is no YAML.

A problem is a fault at a position, and mostly also the activity during which it was found, with
the position where that activity began.
-/

namespace ModeSwitch.Yaml

inductive Fault where
  /-- A character that no text may hold, after this many bytes. -/
  | controlCharacter (bytes : Nat)
  | colonMissing
  | entryNotAllowed
  | keyNotAllowed
  | valueNotAllowed
  | noTokenStart
  | directiveNameMissing
  | directiveNameBroken
  | directiveUnknown
  | lineNotEnded
  | versionDotMissing
  | versionNumberMissing
  | versionNumberLong
  | blankMissing
  | blankOrBreakMissing
  | nameMissing
  | tagNotClosed
  | tagMarkMissing
  | tagUriMissing
  | octetMissing
  | leadingOctet
  | trailingOctet
  | zeroIndent
  | tabInIndent
  | documentInQuotes
  | endInQuotes
  | escapeUnknown
  | hexMissing
  | codePointInvalid
  | colonInFlow
  | tabInText
  | documentStartMissing
  | versionRepeated
  | versionUnsupported
  | tagDirectiveRepeated
  | handleUndefined
  | contentMissing
  | dashMissing
  | keyMissing
  | sequenceNotContinued
  | mappingNotContinued
  deriving DecidableEq, Repr

def Fault.words : Fault → String
  | .controlCharacter _ => "control characters are not allowed"
  | .colonMissing => "could not find expected ':'"
  | .entryNotAllowed => "block sequence entries are not allowed in this context"
  | .keyNotAllowed => "mapping keys are not allowed in this context"
  | .valueNotAllowed => "mapping values are not allowed in this context"
  | .noTokenStart => "found character that cannot start any token"
  | .directiveNameMissing => "could not find expected directive name"
  | .directiveNameBroken => "found unexpected non-alphabetical character"
  | .directiveUnknown => "found unknown directive name"
  | .lineNotEnded => "did not find expected comment or line break"
  | .versionDotMissing => "did not find expected digit or '.' character"
  | .versionNumberMissing => "did not find expected version number"
  | .versionNumberLong => "found extremely long version number"
  | .blankMissing => "did not find expected whitespace"
  | .blankOrBreakMissing => "did not find expected whitespace or line break"
  | .nameMissing => "did not find expected alphabetic or numeric character"
  | .tagNotClosed => "did not find the expected '>'"
  | .tagMarkMissing => "did not find expected '!'"
  | .tagUriMissing => "did not find expected tag URI"
  | .octetMissing => "did not find URI escaped octet"
  | .leadingOctet => "found an incorrect leading UTF-8 octet"
  | .trailingOctet => "found an incorrect trailing UTF-8 octet"
  | .zeroIndent => "found an indentation indicator equal to 0"
  | .tabInIndent => "found a tab character where an indentation space is expected"
  | .documentInQuotes => "found unexpected document indicator"
  | .endInQuotes => "found unexpected end of stream"
  | .escapeUnknown => "found unknown escape character"
  | .hexMissing => "did not find expected hexadecimal number"
  | .codePointInvalid => "found invalid Unicode character escape code"
  | .colonInFlow => "found unexpected ':'"
  | .tabInText => "found a tab character that violates indentation"
  | .documentStartMissing => "did not find expected <document start>"
  | .versionRepeated => "found duplicate %YAML directive"
  | .versionUnsupported => "found incompatible YAML document"
  | .tagDirectiveRepeated => "found duplicate %TAG directive"
  | .handleUndefined => "found undefined tag handle"
  | .contentMissing => "did not find expected node content"
  | .dashMissing => "did not find expected '-' indicator"
  | .keyMissing => "did not find expected key"
  | .sequenceNotContinued => "did not find expected ',' or ']'"
  | .mappingNotContinued => "did not find expected ',' or '\x7d'"

inductive Activity where
  | simpleKey
  | nextToken
  | directive
  | versionDirective
  | tagDirective
  /-- The handle that a tag directive declares. -/
  | declaredHandle
  /-- The same, once it cannot be the handle of one mark. -/
  | longHandle
  /-- What a tag directive lets a handle stand for. -/
  | declaredTag
  | anchor
  | alias
  | tag
  | tagUri
  | blockText
  | quotedText
  | quotedEscape
  | plainText
  | node
  | blockNode
  | flowNode
  | blockSequence
  | blockMapping
  | flowSequence
  | flowMapping
  deriving DecidableEq, Repr

def Activity.words : Activity → String
  | .simpleKey => "while scanning a simple key"
  | .nextToken => "while scanning for the next token"
  | .directive => "while scanning a directive"
  | .versionDirective => "while scanning a %YAML directive"
  | .tagDirective => "while scanning a %TAG directive"
  | .declaredHandle => "while scanning a tag directive"
  | .longHandle => "while parsing a tag directive"
  | .declaredTag => "while parsing a %TAG directive"
  | .anchor => "while scanning an anchor"
  | .alias => "while scanning an alias"
  | .tag => "while scanning a tag"
  | .tagUri => "while parsing a tag"
  | .blockText => "while scanning a block scalar"
  | .quotedText => "while scanning a quoted scalar"
  | .quotedEscape => "while parsing a quoted scalar"
  | .plainText => "while scanning a plain scalar"
  | .node => "while parsing a node"
  | .blockNode => "while parsing a block node"
  | .flowNode => "while parsing a flow node"
  | .blockSequence => "while parsing a block collection"
  | .blockMapping => "while parsing a block mapping"
  | .flowSequence => "while parsing a flow sequence"
  | .flowMapping => "while parsing a flow mapping"

/-- A fault, where it is, and what was being read from where on. -/
structure Problem where
  fault : Fault
  position : Position
  during : Option (Activity × Position)
  deriving DecidableEq, Repr

namespace Problem

/-- The place of the fault in words.  A character that no text may hold is placed by bytes. -/
def placePhrase (problem : Problem) : String :=
  match problem.fault with
  | .controlCharacter bytes => if bytes = 0 then "" else " at position " ++ toString bytes
  | _ => problem.position.phrase

/-- The activity in words, with a comma before them; its place only if it is not that of the
fault. -/
def duringPhrase (problem : Problem) : String :=
  match problem.during with
  | none => ""
  | some (activity, begun) =>
      ", " ++ activity.words
        ++ (if begun.agrees problem.position then "" else begun.phrase)

def message (problem : Problem) : String :=
  problem.fault.words ++ problem.placePhrase ++ problem.duringPhrase

end Problem

end ModeSwitch.Yaml
