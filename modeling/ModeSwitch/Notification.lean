/-! Status notifications.

A notification is shown while a switch is on.  Services receive two calls: a withdrawal by id, and
a post.  The tray is what the calls leave on display: it is found by replaying them.
-/

namespace ModeSwitch

/-- A status notification shown while a switch is on. -/
structure Notification where
  id : UInt32
  title : String
  body : String
  /-- Where a tap on the notification leads. -/
  tapTarget : String
  deriving DecidableEq, Repr

/-- Where a tap leads unless a description says otherwise. -/
def Notification.defaultTapTarget : String := "device_settings"

/-- A call that a notification service receives. -/
inductive NotifierCall where
  | withdraw (id : UInt32)
  | post (notification : Notification)
  deriving DecidableEq, Repr

/-- The notifications on display, at most one for each id. -/
structure Tray where
  shown : List Notification
  deriving DecidableEq, Repr

namespace Tray

def empty : Tray := ⟨[]⟩

def get? (tray : Tray) (id : UInt32) : Option Notification :=
  tray.shown.find? (·.id = id)

/-- The effect of one call: a withdrawal clears an id, a post replaces what its id shows. -/
def receive (tray : Tray) : NotifierCall → Tray
  | .withdraw id => ⟨tray.shown.filter (·.id ≠ id)⟩
  | .post notification => ⟨notification :: tray.shown.filter (·.id ≠ notification.id)⟩

def replay (calls : List NotifierCall) : Tray :=
  calls.foldl receive empty

end Tray

end ModeSwitch
