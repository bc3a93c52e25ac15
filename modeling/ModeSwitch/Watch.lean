import ModeSwitch.Settings

/-! Watching a device.

A watch notes the state of every toggle at its start, and at each tick the changes since the
previous look, whoever made them.
-/

namespace ModeSwitch

def Change.event (change : Change) : Event :=
  match change.before, change.after with
  | _, none => .watchDisappeared change.key
  | none, some state => .watchAppeared change.key state
  | some before, some after => .watchChanged change.key before after

namespace Watch

open Procedure

def logAll (events : List Event) : Procedure Unit :=
  events.foldr .note (.done ())

/-- The events that report a difference: one for each change, or one that says there is none. -/
def report : List Change → List Event
  | [] => [.watchUnchanged]
  | changes => changes.map Change.event

def start (settings : Settings) : Procedure Snapshot := do
  let snapshot ← settings.snapshot
  logAll (snapshot.entries.map fun entry => .watched entry.1 entry.2)
  return snapshot

/-- Looks again and notes what has changed since the snapshot `previous`. -/
def tick (settings : Settings) (previous : Snapshot) : Procedure Snapshot := do
  let snapshot ← settings.snapshot
  logAll (report (previous.diff snapshot))
  return snapshot

def stop : Procedure Unit :=
  log .watchStopping

end Watch

end ModeSwitch
