import ModeSwitch.Notifier.Services
import ModeSwitch.Proofs.Procedure.Requests
import ModeSwitch.Proofs.Store.Attributes

/-! Attributes in memory beside a recorder.

Looking changes nothing, a call to the recorder leaves the attributes alone, and a write leaves the
recorder alone.
-/

namespace ModeSwitch

abbrev RecordingDevice := Device MemoryStore Recorder

namespace RecordingDevice

open Procedure

def respond : Responder RecordingDevice :=
  Device.responder MemoryStore.service Recorder.service

def receiving (device : RecordingDevice) (calls : List NotifierCall) : RecordingDevice :=
  { device with notifier := { device.notifier with calls := device.notifier.calls ++ calls } }

def accepting (device : RecordingDevice) (path : AttrPath) (line : String) : RecordingDevice :=
  { device with store := device.store.accepting path line }

def answer (device : RecordingDevice) : Except NotifyError Unit :=
  if device.notifier.failing then .error .unavailable else .ok ()

variable (device : RecordingDevice)

@[simp]
theorem receiving_nil : device.receiving [] = device := by
  simp [receiving]

@[simp]
theorem receiving_receiving (first second : List NotifierCall)
    : (device.receiving first).receiving second = device.receiving (first ++ second) := by
  simp [receiving]

@[simp]
theorem respond_probe (path : AttrPath)
    : respond (.probe path) device = ⟨some (device.store.holds path), [], device⟩ :=
  rfl

@[simp]
theorem respond_read (path : AttrPath)
    : respond (.read path) device = ⟨some (device.store.readAt path), [], device⟩ :=
  rfl

@[simp]
theorem respond_withdraw (id : UInt32)
    : respond (.withdraw id) device
      = ⟨some device.answer, [], device.receiving [.withdraw id]⟩ :=
  rfl

@[simp]
theorem respond_post (notification : Notification)
    : respond (.post notification) device
      = ⟨some device.answer, [], device.receiving [.post notification]⟩ :=
  rfl

/-- A write is answered by the store, and the recorder does not notice. -/
theorem respond_write (path : AttrPath) (line : String)
    : respond (.write path line) device
      = device.ofStore (MemoryStore.service.write path line device.store) :=
  rfl

end RecordingDevice

/-- How a store takes a write to a path. -/
inductive MemoryStore.Takes (store : MemoryStore) (path : AttrPath) : Prop where
  /-- The write panics. -/
  | panics (on : store.panicking = true)
  /-- The write is refused: the driver fails, or there is no attribute. -/
  | refuses (calm : store.panicking = false)
    (refused : store.behaviour = .fail ∨ store.holds path = false)
  /-- The write goes through. -/
  | accepts (calm : store.panicking = false) (willing : store.behaviour ≠ .fail)
    (present : store.holds path = true)

/-- Every write is taken in one of the three ways. -/
theorem MemoryStore.takes (store : MemoryStore) (path : AttrPath) : store.Takes path := by
  cases on : store.panicking with
  | true => exact .panics on
  | false =>
      by_cases refused : store.behaviour = .fail ∨ store.holds path = false
      · exact .refuses on refused
      · simp only [not_or, Bool.not_eq_false] at refused
        exact .accepts on refused.1 refused.2

/-- A write goes through or changes nothing. -/
theorem MemoryStore.write_state (store : MemoryStore) (path : AttrPath) (line : String)
    : (service.write path line store).state = store
      ∨ (service.write path line store).state = store.accepting path line := by
  dsimp only [service]
  split
  · exact .inl rfl
  · split
    · exact .inl rfl
    · exact .inr rfl

namespace RecordingDevice

open Procedure

variable {device : RecordingDevice} {path : AttrPath} {line : String}

/-- While writes panic, a write has no answer and leaves no trace. -/
theorem respond_write_of_panicking (on : device.store.panicking = true)
    : respond (.write path line) device = ⟨none, [], device⟩ := by
  simp [respond, Device.responder, MemoryStore.service, Device.ofStore, on]

/-- A write that is refused leaves no trace. -/
theorem respond_write_of_refused (calm : device.store.panicking = false)
    (refused : device.store.behaviour = .fail ∨ device.store.holds path = false)
    : respond (.write path line) device = ⟨some (.error .noAttribute), [], device⟩ := by
  simp [respond, Device.responder, MemoryStore.service, Device.ofStore, calm, refused]

/-- A write that goes through changes the store and nothing else. -/
theorem respond_write_of_accepted (calm : device.store.panicking = false)
    (willing : device.store.behaviour ≠ .fail) (present : device.store.holds path = true)
    : respond (.write path line) device = ⟨some (.ok ()), [], device.accepting path line⟩ := by
  simp [respond, Device.responder, MemoryStore.service, Device.ofStore, calm, willing, present,
    accepting]

/-- While no write panics, every request is answered, and no write will panic afterwards. -/
theorem respond_calm (calm : device.store.panicking = false) (request : Request)
    : ∃ reply,
        (respond request device).reply = some reply
        ∧ (respond request device).state.store.panicking = false := by
  cases request with
  | probe path => exact ⟨_, rfl, calm⟩
  | read path => exact ⟨_, rfl, calm⟩
  | withdraw id => exact ⟨_, rfl, calm⟩
  | post notification => exact ⟨_, rfl, calm⟩
  | write path line =>
      rcases device.store.takes path with on | ⟨calm, refused⟩ | ⟨calm, willing, present⟩
      · rw [calm] at on
        cases on
      · rw [respond_write_of_refused calm refused]
        exact ⟨_, rfl, calm⟩
      · rw [respond_write_of_accepted calm willing present]
        exact ⟨_, rfl, calm⟩

end RecordingDevice

end ModeSwitch
