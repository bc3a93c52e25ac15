import ModeSwitch.Yaml.Position

/-! Tokens.

A token is a piece of a text with a meaning of its own, or a mark that stands for a change of
indentation: the start of a block collection, and the end of one.
-/

namespace ModeSwitch.Yaml

inductive Style where
  /-- Without any marks around it. -/
  | plain
  /-- Between quotes of one or two strokes. -/
  | quoted
  /-- Indented, line by line as it stands. -/
  | literal
  /-- Indented, with lines joined. -/
  | folded
  deriving DecidableEq, Repr

/-- The text of a tag.  A part of it that is written by octets has no character if these encode
none. -/
structure TagText where
  parts : List (Option Char)
  deriving DecidableEq, Repr

namespace TagText

def ofString (text : String) : TagText := ⟨text.toList.map some⟩

/-- The tag of a common kind of scalars, which every document knows. -/
def common (name : String) : TagText := .ofString ("tag:yaml.org,2002:" ++ name)

instance : Append TagText where
  append head rest := ⟨head.parts ++ rest.parts⟩

/-- Does the tag begin with a mark, so that it belongs to the document alone? -/
def isOwn (tag : TagText) : Bool :=
  tag.parts.head? == some (some '!')

def isReadable (tag : TagText) : Bool :=
  tag.parts.all Option.isSome

end TagText

inductive TokenKind where
  | streamEnd
  | versionDirective (major minor : Nat)
  | tagDirective (handle : String) (stem : TagText)
  | documentStart
  | documentEnd
  | blockSequenceStart
  | blockMappingStart
  | blockEnd
  | sequenceStart
  | sequenceEnd
  | mappingStart
  | mappingEnd
  | entry
  | comma
  | key
  | value
  | alias (name : String)
  | anchor (name : String)
  | tag (handle : String) (suffix : TagText)
  | scalar (text : String) (style : Style)
  deriving DecidableEq, Repr

/-- A token with the positions of its start and its end. -/
structure Token where
  kind : TokenKind
  start : Position
  stop : Position
  deriving DecidableEq, Repr

end ModeSwitch.Yaml
