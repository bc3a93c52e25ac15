import ModeSwitch.Procedure

/-! Devices.

A device consists of a store of attributes and a notification service.  Together they answer every
request.  Each may have a state of its own, or both may work on the same one.
-/

namespace ModeSwitch

/-- A store of attributes as it answers requests.  A write either replaces the whole contents or
fails; it never creates an attribute. -/
structure Store (σ : Type) where
  probe : AttrPath → σ → Reaction σ Bool
  read : AttrPath → σ → Reaction σ (Except StoreError String)
  write : AttrPath → String → σ → Reaction σ (Except StoreError Unit)

/-- What is found at a path by looking at it from outside. -/
inductive Contents where
  | text (contents : String)
  /-- Bytes that are no text. -/
  | bytes (contents : List UInt8)
  | directory
  deriving DecidableEq, Repr

/-- A notification service as it answers requests. -/
structure Notifier (ν : Type) where
  withdraw : UInt32 → ν → Reaction ν (Except NotifyError Unit)
  post : Notification → ν → Reaction ν (Except NotifyError Unit)

/-- The states of the two parts of a device, if each has its own. -/
structure Device (σ ν : Type) where
  store : σ
  notifier : ν
  deriving DecidableEq, Repr

namespace Device

variable {σ ν : Type}

def ofStore {ρ : Type} (device : Device σ ν) (reaction : Reaction σ ρ) :
    Reaction (Device σ ν) ρ :=
  ⟨reaction.reply, reaction.events, { device with store := reaction.state }⟩

def ofNotifier {ρ : Type} (device : Device σ ν) (reaction : Reaction ν ρ) :
    Reaction (Device σ ν) ρ :=
  ⟨reaction.reply, reaction.events, { device with notifier := reaction.state }⟩

/-- The device made of a store and a notification service, each with a state of its own. -/
def responder (store : Store σ) (notifier : Notifier ν) : Responder (Device σ ν)
  | .probe path, device => device.ofStore (store.probe path device.store)
  | .read path, device => device.ofStore (store.read path device.store)
  | .write path contents, device => device.ofStore (store.write path contents device.store)
  | .withdraw id, device => device.ofNotifier (notifier.withdraw id device.notifier)
  | .post notification, device => device.ofNotifier (notifier.post notification device.notifier)

/-- The device made of a store and a notification service that work on the same state. -/
def sharing (store : Store σ) (notifier : Notifier σ) : Responder σ
  | .probe path => store.probe path
  | .read path => store.read path
  | .write path contents => store.write path contents
  | .withdraw id => notifier.withdraw id
  | .post notification => notifier.post notification

end Device

end ModeSwitch
