import ModeSwitch.Config
import ModeSwitch.Snapshot
import ModeSwitch.Toggle

/-! The settings of a device.

The settings hold one slot for each described toggle.  Changes to one attribute are serialized by
a lock; toggles whose paths name the same place share it.
-/

namespace ModeSwitch

/-- What a list of settings shows for one toggle. -/
structure Entry where
  key : String
  title : String
  /-- Whether the attribute is present; if it is not, the entry shows as disabled. -/
  available : Bool
  checked : State
  deriving DecidableEq, Repr

/-- The result of a change that was written. -/
structure Outcome where
  requested : State
  observed : State
  deriving DecidableEq, Repr

def Outcome.accepted (outcome : Outcome) : Bool :=
  outcome.requested = outcome.observed

/-- A toggle with its title and the lock of its attribute. -/
structure Slot where
  title : String
  toggle : Toggle
  lock : Nat
  deriving DecidableEq, Repr

/-- The settings of a device: its toggles in the order of the description. -/
structure Settings where
  name : String
  slots : List Slot
  deriving DecidableEq, Repr

/-- The toggle that a specification describes. -/
def Toggle.ofSpec (spec : ToggleSpec) : Toggle :=
  ⟨spec.key, spec.path, spec.tokens, spec.notification⟩

namespace Settings

open Procedure

/-- The lock of a place, and the places that have locks after it was asked for.  The locks are
numbered by the order in which their places were first asked for. -/
def lockOf (known : List Place) (place : Place) : Nat × List Place :=
  match known.idxOf? place with
  | some lock => (lock, known)
  | none => (known.length, known ++ [place])

/-- The slots of the specifications, when the places `known` have locks already. -/
def slotsFrom (known : List Place) : List ToggleSpec → List Slot
  | [] => []
  | spec :: rest =>
      let (lock, known) := lockOf known spec.path.place
      ⟨spec.title, .ofSpec spec, lock⟩ :: slotsFrom known rest

def ofConfig (config : Config) : Settings :=
  ⟨config.name, slotsFrom [] config.toggles⟩

def build (config : Config) : Procedure Settings := do
  let settings := ofConfig config
  log (.settingsBuilt settings.name settings.slots.length)
  return settings

def keys (settings : Settings) : List String :=
  settings.slots.map (·.toggle.name)

def slot? (settings : Settings) (key : String) : Option Slot :=
  settings.slots.find? (·.toggle.name = key)

def toggle? (settings : Settings) (key : String) : Option Toggle :=
  (settings.slot? key).map (·.toggle)

end Settings

/-- The entry of a slot.  The state of an absent attribute is not asked for. -/
def Slot.entry (slot : Slot) : Procedure Entry := do
  let available ← slot.toggle.isSupported
  let checked ← if available then slot.toggle.currentState else pure .disabled
  return ⟨slot.toggle.name, slot.title, available, checked⟩

/-- The state of a slot with its key, if the attribute is present. -/
def Slot.present? (slot : Slot) : Procedure (Option (String × State)) := do
  if ← slot.toggle.isSupported then
    let state ← slot.toggle.currentState
    return some (slot.toggle.name, state)
  else
    return none

namespace Settings

open Procedure

def entries (settings : Settings) : Procedure (List Entry) :=
  gather Slot.entry settings.slots

/-- The entry of a key. -/
def entry (settings : Settings) (key : String) : Procedure (Except ChangeError Entry) :=
  match settings.slot? key with
  | none => pure (.error (.unknownToggle key))
  | some slot => do return .ok (← slot.entry)

/-- Requests a state of a toggle while holding the lock of its attribute, and reports what the
driver made of it. -/
def change (settings : Settings) (key : String) (requested : State) :
    Procedure (Except ChangeError Outcome) :=
  match settings.slot? key with
  | none => pure (.error (.unknownToggle key))
  | some slot => holding slot.lock do
      if !(← slot.toggle.isSupported) then log (.changingUnsupported key)
      match ← slot.toggle.set requested with
      | .error failure => return .error (.notWritten failure)
      | .ok observed =>
          let outcome : Outcome := ⟨requested, observed⟩
          if outcome.accepted then log (.changed key observed)
          else log (.stayed key observed requested)
          return .ok outcome

/-- The observed states of all toggles whose attribute is present. -/
def snapshot (settings : Settings) : Procedure Snapshot := do
  let states ← gather Slot.present? settings.slots
  return .ofList (states.filterMap id)

end Settings

end ModeSwitch
