import ModeSwitch.Text.Utf8

/-! Texts without commands to a terminal.

A terminal obeys control characters, and sequences of bytes that begin with an escape character.  A
text that is to be shown as it is loses both; only the controls that lay out a text stay.  A control
that lays out a text is shown even in the middle of a command, and so is what follows it, up to the
next byte that is not shown; the command then goes on.
-/

namespace ModeSwitch.Text

/-- What the reader of a text is in the middle of. -/
inductive ControlState where
  /-- In no command. -/
  | text
  /-- In a character with a number of bytes to come. -/
  | character (missing : Nat)
  /-- Behind an escape character. -/
  | escape
  /-- In a command that the next letter, digit or mark ends. -/
  | short
  /-- In a command with numbers, which a letter ends. -/
  | numbered
  /-- At the beginning of a command with a text of its own. -/
  | deviceHead
  /-- In the numbers of a command with a text of its own. -/
  | deviceNumbers
  /-- In the marks of a command with a text of its own. -/
  | deviceMarks
  /-- In the text of a command, which one byte ends. -/
  | deviceText
  /-- In the text of a title, which a bell ends. -/
  | title
  deriving DecidableEq, Repr

def isLayout (b : Nat) : Bool :=
  b = 0x09 || b = 0x0A || b = 0x0C || b = 0x0D

def furtherBytes (b : Nat) : Nat :=
  if 0xC2 ≤ b && b ≤ 0xDF then 1
  else if 0xE0 ≤ b && b ≤ 0xEF then 2
  else if 0xF0 ≤ b && b ≤ 0xF4 then 3
  else 0

namespace ControlState

/-- The state that a byte other than a control leads to within a command, if it leads to another
one. -/
def within (state : ControlState) (b : Nat) : Option ControlState :=
  match state with
  | .text | .character _ => none
  | .escape =>
      if b = 0x5B then some .numbered
      else if b = 0x5D then some .title
      else if b = 0x50 then some .deviceHead
      else if b = 0x58 || b = 0x5E || b = 0x5F then some .deviceText
      else if 0x20 ≤ b && b ≤ 0x2F then some .short
      else if 0x30 ≤ b && b ≤ 0x7E then some .text
      else none
  | .short => if 0x30 ≤ b && b ≤ 0x7E then some .text else none
  | .numbered => if 0x40 ≤ b && b ≤ 0x7E then some .text else none
  | .deviceHead =>
      if 0x20 ≤ b && b ≤ 0x2F then some .deviceMarks
      else if 0x30 ≤ b && b ≤ 0x3F then some .deviceNumbers
      else if 0x40 ≤ b && b ≤ 0x7E then some .deviceText
      else none
  | .deviceNumbers =>
      if 0x20 ≤ b && b ≤ 0x2F then some .deviceMarks
      else if 0x3C ≤ b && b ≤ 0x7E then some .deviceText
      else none
  | .deviceMarks => if 0x30 ≤ b && b ≤ 0x7E then some .deviceText else none
  | .deviceText => if b = 0x9C then some .text else none
  | .title => if b = 0x07 then some .text else none

def showsLayout : ControlState → Bool
  | .text | .character _ | .escape | .short | .numbered => true
  | .deviceHead | .deviceNumbers | .deviceMarks | .deviceText | .title => false

/-- The state that a byte leads to, if it leads to another one, and whether the byte is shown. -/
def move (state : ControlState) (b : Nat) : Option ControlState × Bool :=
  if b = 0x1B then (some .escape, false)
  else if b = 0x18 || b = 0x1A then (some .text, false)
  else if isLayout b && state.showsLayout then (none, true)
  else if state = .text then
    if 0x20 ≤ b && b < 0x7F then (none, true)
    else if furtherBytes b ≠ 0 then (some (.character (furtherBytes b)), true)
    else (none, false)
  else (state.within b, false)

end ControlState

structure ControlReader where
  state : ControlState
  /-- Was the last byte shown? -/
  isShowing : Bool
  deriving DecidableEq, Repr

namespace ControlReader

def fresh : ControlReader := ⟨.text, false⟩

def seek (reader : ControlReader) (b : Nat) : ControlReader × Bool :=
  let (next, isShown) := reader.state.move b
  (⟨next.getD reader.state, isShown⟩, isShown)

/-- Reads a byte and tells whether it is shown.  What follows a byte that is shown is read as if in
no command; a byte that ends the run is read once more in the command that is still open. -/
def step (reader : ControlReader) (b : Nat) : ControlReader × Bool :=
  match reader.state with
  | .character missing =>
      (⟨if missing ≤ 1 then .text else .character (missing - 1), true⟩, true)
  | state =>
      if !reader.isShowing then reader.seek b
      else
        let (next, isShown) := ControlState.text.move b
        let state := next.getD state
        if isShown then (⟨state, true⟩, true) else ((seek ⟨state, false⟩ b).1, false)

def shown (reader : ControlReader) : List UInt8 → List UInt8
  | [] => []
  | byte :: rest =>
      let (next, isShown) := reader.step byte.toNat
      if isShown then byte :: next.shown rest else next.shown rest

end ControlReader

def withoutControls (text : String) : String :=
  Utf8.decodeLenient (ControlReader.fresh.shown (Utf8.encode text))

end ModeSwitch.Text
