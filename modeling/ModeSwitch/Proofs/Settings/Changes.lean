import ModeSwitch.Proofs.Procedure.Holding
import ModeSwitch.Proofs.Settings.Slots
import ModeSwitch.Proofs.Toggle.Protocol

/-! Changes on a recording device.

A change of an unknown key does nothing.  Any other change holds the lock of its attribute while it
writes once; what it leaves follows from how the store takes the write.
-/

namespace ModeSwitch

open Procedure RecordingDevice

/-- Setting a toggle touches no lock. -/
theorem Toggle.set_lockless (toggle : Toggle) (requested : State)
    : (toggle.set requested).Lockless := by
  rw [Toggle.set_eq]
  refine ⟨trivial, fun reply => ?_⟩
  cases reply with
  | ok done => exact (toggle.settle_only requested).lockless
  | error cause => trivial

/-- How a change is reported once its toggle was set. -/
def Settings.report (key : String) (requested : State)
    : Except WriteFailure State → Procedure (Except ChangeError Outcome)
  | .error failure => .done (.error (.notWritten failure))
  | .ok observed =>
      let outcome : Outcome := ⟨requested, observed⟩
      if outcome.accepted then .note (.changed key observed) (.done (.ok outcome))
      else .note (.stayed key observed requested) (.done (.ok outcome))

/-- What a change does while it holds the lock: it looks whether the attribute is present, which
only decides about a note, and sets the toggle. -/
def Slot.changing (slot : Slot) (key : String) (requested : State)
    : Procedure (Except ChangeError Outcome) :=
  .ask (.probe slot.toggle.path) fun present =>
    let setting := (slot.toggle.set requested).bind (Settings.report key requested)
    if present then setting else .note (.changingUnsupported key) setting

namespace Settings

variable {settings : Settings} {key : String} {slot : Slot}

/-- A change of an unknown key asks nothing of the device. -/
theorem change_of_unknown (unknown : settings.slot? key = none) (requested : State)
    : settings.change key requested = .done (.error (.unknownToggle key)) := by
  simp [change, unknown]

/-- A change of a known key holds the lock of its slot. -/
theorem change_of_known (known : settings.slot? key = some slot) (requested : State)
    : settings.change key requested = holding slot.lock (slot.changing key requested) := by
  unfold change Slot.changing
  simp only [known, Toggle.isSupported, request, log, bind_eq, Procedure.bind, pure_eq_done]
  refine congrArg (holding _) (congrArg (ask _) (funext fun present => ?_))
  -- However the change goes on after setting the toggle, it does what the report does.
  have reported : ∀ f : Except WriteFailure State → Procedure (Except ChangeError Outcome),
      (∀ result, f result = report key requested result)
      → (slot.toggle.set requested).bind f
        = (slot.toggle.set requested).bind (report key requested) :=
    fun f same => congrArg _ (funext same)
  cases present <;> simp only [Bool.not_true, Bool.not_false, Bool.false_eq_true, if_true, if_false]
  · refine congrArg (note _) (reported _ fun result => ?_)
    cases result <;> rfl
  · refine reported _ fun result => ?_
    cases result <;> rfl

/-- Reporting only makes a note. -/
theorem report_only (key : String) (requested : State) (result : Except WriteFailure State)
    {allowed : Request → Prop}
    : (report key requested result).Only allowed := by
  cases result with
  | error failure => trivial
  | ok observed => dsimp only [report]; split <;> trivial

def changed (requested : State) : Except WriteFailure State → Except ChangeError Outcome
  | .error failure => .error (.notWritten failure)
  | .ok observed => .ok ⟨requested, observed⟩

/-- Reporting changes nothing, and ends in what the change comes to. -/
theorem report_leaves (key : String) (requested : State) (result : Except WriteFailure State)
    (held : List Nat) (device : RecordingDevice) (locks : Locks)
    : ((report key requested result).runHolding respond held device locks).Leaves
        (.finished (changed requested result)) device locks := by
  cases result with
  | error failure => exact leaves_done _
  | ok observed => dsimp only [report]; split <;> exact leaves_note (leaves_done _)

end Settings

namespace Slot

variable (slot : Slot) (key : String) (requested : State)

/-- Setting the toggle and reporting it, which is all that a change does besides looking. -/
abbrev setting : Procedure (Except ChangeError Outcome) :=
  (slot.toggle.set requested).bind (Settings.report key requested)

/-- A change touches no lock while it holds the one of its attribute. -/
theorem changing_lockless : (slot.changing key requested).Lockless := by
  have setting : (slot.setting key requested).Lockless :=
    only_bind (slot.toggle.set_lockless requested) fun result =>
      Settings.report_only key requested result
  refine ⟨trivial, fun present => ?_⟩
  dsimp only
  split <;> exact setting

variable {slot key requested} {device device' : RecordingDevice} {held : List Nat}
  {locks locks' : Locks}

/-- Whether the attribute is present decides about a note only, so a change leaves inside its lock
what setting the toggle leaves. -/
theorem changing_leaves {ending : Ending (Except ChangeError Outcome)}
    (set
      : ((slot.setting key requested).runHolding respond held device locks).Leaves ending device'
          locks')
    : ((slot.changing key requested).runHolding respond held device locks).Leaves ending device'
        locks' := by
  refine leaves_ask (respond_probe device slot.toggle.path) ?_
  dsimp only
  split
  · exact set
  · exact leaves_note set

/-- A toggle that was set is reported. -/
theorem setting_leaves {result : Except WriteFailure State}
    (set
      : ((slot.toggle.set requested).runHolding respond held device locks).Leaves
          (.finished result) device' locks)
    : ((slot.setting key requested).runHolding respond held device locks).Leaves
        (.finished (Settings.changed requested result)) device' locks := by
  rw [setting, Only.runHolding_bind (slot.toggle.set_lockless requested)]
  exact set.andThen (Settings.report_leaves key requested result held device' locks)

end Slot

namespace Settings

variable {settings : Settings} {key : String} {slot : Slot} {device : RecordingDevice}
  {locks : Locks}

/-- A change of an unknown key fails and leaves everything as it was. -/
theorem change_leaves_of_unknown (unknown : settings.slot? key = none) (requested : State)
    : ((settings.change key requested).run respond device locks).Leaves
        (.finished (.error (.unknownToggle key))) device locks := by
  rw [change_of_unknown unknown]
  exact leaves_done _

/-- A change during which the write panics changes nothing, but for its lock. -/
theorem change_leaves_of_panicking (known : settings.slot? key = some slot) (requested : State)
    (free : (locks slot.lock).held = false) (on : device.store.panicking = true)
    : ((settings.change key requested).run respond device locks).Leaves .panicked device
        ((locks.take slot.lock).poison slot.lock) := by
  rw [change_of_known known]
  refine holding_leaves_panicked (slot.changing_lockless key requested) free
    (Slot.changing_leaves ?_)
  rw [Slot.setting, Only.runHolding_bind (slot.toggle.set_lockless requested)]
  exact (slot.toggle.set_leaves_of_panicking [slot.lock] _ requested on).andThen_panicked

/-- A change whose write is refused fails and leaves everything as it was. -/
theorem change_leaves_of_refused (known : settings.slot? key = some slot) (requested : State)
    (free : (locks slot.lock).held = false) (calm : device.store.panicking = false)
    (refused : device.store.behaviour = .fail ∨ device.store.holds slot.toggle.path = false)
    : ((settings.change key requested).run respond device locks).Leaves
        (.finished (.error (.notWritten ⟨slot.toggle.path, .noAttribute⟩))) device locks := by
  rw [change_of_known known]
  exact holding_leaves (slot.changing_lockless key requested) free
    (Slot.changing_leaves (Slot.setting_leaves
      (slot.toggle.set_leaves_of_refused [slot.lock] _ requested calm refused)))

/-- A change whose write goes through leaves the written store, and the recorder with the notices of
the state that this store shows. -/
theorem change_leaves_of_accepted (known : settings.slot? key = some slot) (requested : State)
    (free : (locks slot.lock).held = false) (calm : device.store.panicking = false)
    (willing : device.store.behaviour ≠ .fail)
    (present : device.store.holds slot.toggle.path = true)
    : let written := device.accepting slot.toggle.path (slot.toggle.tokens.line requested)
      let observed := slot.toggle.observe written.store
      ((settings.change key requested).run respond device locks).Leaves
        (.finished (.ok ⟨requested, observed⟩))
        (written.receiving (slot.toggle.notices observed)) locks := by
  intro written observed
  rw [change_of_known known]
  exact holding_leaves (slot.changing_lockless key requested) free
    (Slot.changing_leaves (Slot.setting_leaves
      (slot.toggle.set_leaves_of_accepted [slot.lock] _ requested calm willing present)))

end Settings

end ModeSwitch
