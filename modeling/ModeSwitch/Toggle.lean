import ModeSwitch.Procedure

/-! Toggles.

A toggle presents one attribute as a switch.  It holds no state of its own: every query reads the
attribute again, so the driver stays the source of truth.  A request is one write followed by one
read; the notification of the toggle follows what the read showed, not what was requested.
-/

namespace ModeSwitch

/-- One attribute presented as a switch. -/
structure Toggle where
  name : String
  path : AttrPath
  tokens : Tokens
  /-- Shown while the toggle is observed enabled. -/
  notification : Option Notification
  deriving DecidableEq, Repr

namespace Toggle

open Procedure

def isSupported (toggle : Toggle) : Procedure Bool :=
  request (.probe toggle.path)

/-- Reads and classifies the attribute.  A read that fails counts as an unrecognized empty value. -/
def readMode (toggle : Toggle) : Procedure Reading := do
  match ← request (.read toggle.path) with
  | .ok raw =>
      let reading := toggle.tokens.classify raw
      match reading with
      | .unrecognized value => log (.unrecognizedMode toggle.name value)
      | .enabled | .disabled => pure ()
      return reading
  | .error cause =>
      log (.readFailed toggle.name toggle.path cause)
      return .unrecognized ""

/-- The state that the driver reports now. -/
def currentState (toggle : Toggle) : Procedure State := do
  let reading ← toggle.readMode
  log (.observed toggle.name reading.state)
  return reading.state

/-- Brings the notification in line with an observed state: it is withdrawn in any case, and posted
again if the state is enabled.  Failures of the service are noted and change nothing. -/
def notify (toggle : Toggle) (observed : State) : Procedure Unit := do
  match toggle.notification with
  | none => return
  | some notification =>
      match ← request (.withdraw notification.id) with
      | .ok () => pure ()
      | .error cause => log (.withdrawFailed toggle.name cause)
      if observed.isEnabled then
        match ← request (.post notification) with
        | .ok () => pure ()
        | .error cause => log (.postFailed toggle.name cause)

/-- Requests a state and returns the state observed afterwards.  Success means only that the write
went through: the driver may still have refused the mode. -/
def set (toggle : Toggle) (requested : State) : Procedure (Except WriteFailure State) := do
  let line := toggle.tokens.line requested
  log (.setting toggle.name requested line toggle.path)
  match ← request (.write toggle.path line) with
  | .error cause =>
      log (.writeFailed toggle.name cause)
      return .error ⟨toggle.path, cause⟩
  | .ok () =>
      let observed ← toggle.currentState
      if observed ≠ requested then log (.rejected toggle.name requested observed)
      toggle.notify observed
      return .ok observed

end Toggle

end ModeSwitch
