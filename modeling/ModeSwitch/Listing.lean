import ModeSwitch.Settings

/-! Texts shown to a user.

An entry is one line: the key in a column of twenty characters, then the title with a marker for
its state.  Values that are no mode are shown quoted.
-/

namespace ModeSwitch

namespace Entry

/-- The title with a marker: filled for enabled, empty for disabled, words for absent. -/
def displayName (entry : Entry) : String :=
  if entry.available then
    match entry.checked with
    | .enabled => entry.title ++ " ●"
    | .disabled => entry.title ++ " ○"
  else entry.title ++ " (unsupported)"

/-- The width of the column that keys are set in. -/
def keyWidth : Nat := 20

/-- The key in its column, a space, and the display name.  A longer key takes the room it needs. -/
def line (entry : Entry) : String :=
  Text.padRight keyWidth entry.key ++ " " ++ entry.displayName

end Entry

def Toggle.describe (toggle : Toggle) : Reading → String
  | .enabled => toggle.name ++ " is on (" ++ toggle.tokens.enabled ++ ")"
  | .disabled => toggle.name ++ " is off (" ++ toggle.tokens.disabled ++ ")"
  | .unrecognized raw =>
      if raw = "" then toggle.name ++ " is off (no readable value)"
      else toggle.name ++ " is off (unrecognized value " ++ Text.quote raw ++ ")"

def Outcome.describe (outcome : Outcome) (key : String) : String :=
  if outcome.accepted then key ++ " is now " ++ outcome.observed.word
  else
    key ++ " is " ++ outcome.observed.word ++ " (driver did not accept "
      ++ outcome.requested.word ++ ")"

end ModeSwitch
