import ModeSwitch.AttrPath
import ModeSwitch.Mode
import ModeSwitch.Notification

/-! Device descriptions.

A description names a device, says how its notifications are delivered, and lists its toggles.
-/

namespace ModeSwitch

/-- External programs that post and withdraw notifications.  The arguments may hold placeholders
for the parts of a notification. -/
structure CommandService where
  postCommand : String
  postArgs : List String
  withdrawCommand : String
  withdrawArgs : List String
  deriving DecidableEq, Repr

/-- How notifications are delivered. -/
inductive NotifierChoice where
  /-- To the journal only. -/
  | log
  | command (service : CommandService)
  deriving DecidableEq, Repr

/-- One hardware attribute to be presented as a switch. -/
structure ToggleSpec where
  key : String
  title : String
  path : AttrPath
  tokens : Tokens
  notification : Option Notification
  deriving DecidableEq, Repr

/-- The description of a device. -/
structure Config where
  name : String
  notifier : NotifierChoice
  toggles : List ToggleSpec
  deriving DecidableEq, Repr

end ModeSwitch
