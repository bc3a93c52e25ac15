import ModeSwitch.Notifier.Services
import ModeSwitch.Session
import ModeSwitch.Store.Files
import ModeSwitch.Store.Memory

/-! What sessions run on: attributes in memory or in files, with a service of any kind. -/

namespace ModeSwitch.Bench

variable {ν : Type}

def memory (notifier : Notifier ν) (calls : ν → List NotifierCall) :
    Bench (Device MemoryStore ν) MemoryStore.Intervention where
  respond := Device.responder MemoryStore.service notifier
  intervene device change := { device with store := device.store.intervene change }
  inspect device path := (device.store.contents? path).map .text
  writes device := device.store.writes
  calls device := calls device.notifier

/-- Attributes in files beside a service that does not touch the files. -/
def files (notifier : Notifier ν) (calls : ν → List NotifierCall) :
    Bench (Device Host.FileTree ν) FileIntervention where
  respond := Device.responder fileStore notifier
  intervene device change := { device with store := change.apply device.store }
  inspect device := inspectFile device.store
  writes _ := []
  calls device := calls device.notifier

/-- Attributes in files, which a service may change. -/
def host (notifier : Notifier Host.FileTree) : Bench Host.FileTree FileIntervention where
  respond := Device.sharing fileStore notifier
  intervene tree change := change.apply tree
  inspect := inspectFile
  writes _ := []
  calls _ := []

end ModeSwitch.Bench
