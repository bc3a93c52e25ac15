import ModeSwitch.Text.Blank

/-! Modes of a hardware attribute.

A driver accepts two tokens for an attribute, one for each state.  Reading an attribute compares
its value, without the line endings at its end, with the two tokens; a value that is neither is
kept as it is and never counts as enabled.
-/

namespace ModeSwitch

/-- The state of a switch, observed or requested. -/
inductive State where
  | enabled
  | disabled
  deriving DecidableEq, Repr, Inhabited

namespace State

def isEnabled : State → Bool
  | .enabled => true
  | .disabled => false

def ofBool (on : Bool) : State :=
  if on then .enabled else .disabled

def word : State → String
  | .enabled => "on"
  | .disabled => "off"

def name : State → String
  | .enabled => "Enabled"
  | .disabled => "Disabled"

end State

/-- What an attribute was found to hold. -/
inductive Reading where
  | enabled
  | disabled
  /-- Anything but the two tokens, kept for diagnostics. -/
  | unrecognized (raw : String)
  deriving DecidableEq, Repr

/-- The state that a reading stands for.  Only the enabled token counts as enabled. -/
def Reading.state : Reading → State
  | .enabled => .enabled
  | .disabled => .disabled
  | .unrecognized _ => .disabled

/-- The two tokens that a driver accepts for one attribute. -/
structure Tokens where
  enabled : String
  disabled : String
  deriving DecidableEq, Repr

namespace Tokens

/-- Compares a value, without its line endings, with the two tokens; the enabled one goes first. -/
def classify (tokens : Tokens) (raw : String) : Reading :=
  let value := Text.trimLineEnds raw
  if value = tokens.enabled then .enabled
  else if value = tokens.disabled then .disabled
  else .unrecognized value

/-- The token that requests a state. -/
def token (tokens : Tokens) : State → String
  | .enabled => tokens.enabled
  | .disabled => tokens.disabled

/-- The line written to an attribute to request a state: the token and a line feed. -/
def line (tokens : Tokens) (requested : State) : String :=
  tokens.token requested ++ "\n"

end Tokens

end ModeSwitch
