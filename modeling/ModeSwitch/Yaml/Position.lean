/-! Positions in a text.

Lines and columns are counted from zero and shown from one.
-/

namespace ModeSwitch.Yaml

/-- Is the character a line break?  Line endings of every other kind have become line feeds. -/
def isBreak (c : Char) : Bool :=
  c == '\n' || c == '\u2028' || c == '\u2029'

/-- A place between the characters of a text. -/
structure Position where
  /-- The number of bytes that encode the characters before it. -/
  offset : Nat
  line : Nat
  /-- The number of characters before it on its line. -/
  column : Nat
  deriving DecidableEq, Repr

namespace Position

def start : Position := ⟨0, 0, 0⟩

def after (position : Position) (c : Char) : Position :=
  let offset := position.offset + c.utf8Size
  if isBreak c then ⟨offset, position.line + 1, 0⟩ else ⟨offset, position.line, position.column + 1⟩

/-- Is it the place before the first character?  A report does not name that place. -/
def isStart (position : Position) : Bool :=
  position.line == 0 && position.column == 0

def agrees (left right : Position) : Bool :=
  left.line == right.line && left.column == right.column

/-- The place in words, with a blank before them; nothing for the place at the start. -/
def phrase (position : Position) : String :=
  if position.isStart then ""
  else " at line " ++ toString (position.line + 1) ++ " column " ++ toString (position.column + 1)

end Position

end ModeSwitch.Yaml
