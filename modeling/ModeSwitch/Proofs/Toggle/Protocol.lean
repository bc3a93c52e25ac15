import ModeSwitch.Proofs.Device.Recording
import ModeSwitch.Proofs.Notification.Tray
import ModeSwitch.Toggle

/-! The protocol of a toggle on a recording device.

A request of a state is one write.  If the write goes through, the state observed afterwards decides
what the recorder receives: the notification is withdrawn, and posted again if the state is enabled.
-/

namespace ModeSwitch.Toggle

open Procedure RecordingDevice

variable (toggle : Toggle)

/-- The state that a store shows for a toggle; a read that fails shows it disabled. -/
def observe (store : MemoryStore) : State :=
  match store.readAt toggle.path with
  | .ok raw => (toggle.tokens.classify raw).state
  | .error _ => .disabled

/-- What the notification service receives when a toggle was set and a state observed. -/
def notices (observed : State) : List NotifierCall :=
  match toggle.notification with
  | none => []
  | some notification =>
      .withdraw notification.id :: if observed.isEnabled then [.post notification] else []

/-- Notices withdraw what they post again. -/
theorem notices_replacing (observed : State) : Replacing (toggle.notices observed) := by
  cases h : toggle.notification with
  | none => simpa [notices, h] using Replacing.nil
  | some n =>
      cases observed with
      | disabled => simpa [notices, h, State.isEnabled] using Replacing.withdrawal n.id
      | enabled => simpa [notices, h, State.isEnabled] using Replacing.replacement n

variable {toggle} in
/-- Notices are seen under the id of the toggle's notification: it is on display exactly if the
state was enabled. -/
theorem get?_notices {n : Notification} (h : toggle.notification = some n) (observed : State)
    (tray : Tray)
    : ((toggle.notices observed).foldl Tray.receive tray).get? n.id
      = if observed = .enabled then some n else none := by
  cases observed <;> simp [notices, h, State.isEnabled]

variable {toggle} in
/-- Notices are not seen under any other id. -/
theorem get?_notices_of_ne {id : UInt32} (h : ∀ n, toggle.notification = some n → n.id ≠ id)
    (observed : State) (tray : Tray)
    : ((toggle.notices observed).foldl Tray.receive tray).get? id = tray.get? id := by
  cases found : toggle.notification with
  | none => simp [notices, found]
  | some n =>
      have apart : id ≠ n.id := fun same => h n found same.symm
      cases observed <;> simp [notices, found, State.isEnabled, apart]

/-- Reading the mode asks for the attribute of the toggle only. -/
theorem readMode_only : toggle.readMode.Only (· = .read toggle.path) := by
  unfold readMode
  simp only [request, log, bind_eq, Procedure.bind, pure_eq_done]
  refine ⟨rfl, fun reply => ?_⟩
  cases reply with
  | error cause => trivial
  | ok raw => dsimp only; split <;> trivial

/-- Finding the state asks for the attribute of the toggle only. -/
theorem currentState_only : toggle.currentState.Only (· = .read toggle.path) :=
  only_bind toggle.readMode_only fun _ => trivial

/-- The second half of bringing a notification in line: it is posted if the state is enabled. -/
def repost (notification : Notification) : State → Procedure Unit
  | .enabled => .ask (.post notification) fun
      | .ok () => .done ()
      | .error cause => .note (.postFailed toggle.name cause) (.done ())
  | .disabled => .done ()

/-- Bringing a notification in line withdraws it and then posts it again, even if the withdrawal
failed. -/
theorem notify_eq {n : Notification} (h : toggle.notification = some n) (observed : State)
    : toggle.notify observed
      = .ask (.withdraw n.id) fun
        | .ok () => toggle.repost n observed
        | .error cause =>
            .note (.withdrawFailed toggle.name cause) (toggle.repost n observed) := by
  unfold notify repost
  simp only [h, request, log, bind_eq, Procedure.bind, pure_eq_done]
  cases observed <;> rfl

/-- Bringing a notification in line addresses the service, and only about that notification. -/
theorem notify_only (observed : State)
    : (toggle.notify observed).Only fun request =>
        ∃ n, toggle.notification = some n ∧ (request = .withdraw n.id ∨ request = .post n) := by
  cases h : toggle.notification with
  | none => simp [notify, h, Only]
  | some n =>
      have posting : (toggle.repost n observed).Only fun request =>
          ∃ m, some n = some m ∧ (request = .withdraw m.id ∨ request = .post m) := by
        cases observed with
        | disabled => trivial
        | enabled =>
            refine ⟨⟨n, rfl, .inr rfl⟩, fun reply => ?_⟩
            cases reply <;> trivial
      rw [toggle.notify_eq h]
      refine ⟨⟨n, rfl, .inl rfl⟩, fun reply => ?_⟩
      cases reply <;> exact posting

variable (held : List Nat) (device : RecordingDevice) (locks : Locks)

/-- The state found is the one that the store shows, and finding it changes nothing. -/
theorem currentState_leaves
    : (toggle.currentState.runHolding respond held device locks).Leaves
        (.finished (toggle.observe device.store)) device locks := by
  unfold currentState readMode observe
  simp only [request, log, bind_eq, Procedure.bind, pure_eq_done]
  refine leaves_ask (respond_read device toggle.path) ?_
  cases device.store.readAt toggle.path with
  | error cause => exact leaves_note (leaves_note (leaves_done _))
  | ok raw =>
      dsimp only
      cases toggle.tokens.classify raw with
      | enabled => exact leaves_note (leaves_done _)
      | disabled => exact leaves_note (leaves_done _)
      | unrecognized value => exact leaves_note (leaves_note (leaves_done _))

/-- The service receives the notices of the observed state, whatever it answers. -/
theorem notify_leaves (observed : State)
    : ((toggle.notify observed).runHolding respond held device locks).Leaves
        (.finished ()) (device.receiving (toggle.notices observed)) locks := by
  cases h : toggle.notification with
  | none => simpa [notify, notices, h] using leaves_done ()
  | some n =>
      -- The post does not depend on whether the withdrawal failed.
      have posting : ∀ device : RecordingDevice,
          ((toggle.repost n observed).runHolding respond held device locks).Leaves (.finished ())
            (device.receiving (if observed.isEnabled then [.post n] else [])) locks := by
        intro device
        cases observed with
        | disabled => simpa [State.isEnabled, repost] using leaves_done ()
        | enabled =>
            refine leaves_ask (respond_post device n) ?_
            cases device.answer with
            | ok done => exact leaves_done ()
            | error cause => exact leaves_note (leaves_done ())
      have after := posting (device.receiving [.withdraw n.id])
      simp only [receiving_receiving, List.singleton_append] at after
      simp only [toggle.notify_eq h, notices, h]
      refine leaves_ask (respond_withdraw device n.id) ?_
      cases device.answer with
      | ok done => exact after
      | error cause => exact leaves_note after

/-- What follows a write that went through: the state is found, a refusal of the driver noted, and
the notification brought in line. -/
def settle (requested : State) : Procedure (Except WriteFailure State) :=
  toggle.currentState.bind fun observed =>
    let rest := (toggle.notify observed).bind fun _ => .done (.ok observed)
    if observed = requested then rest
    else .note (.rejected toggle.name requested observed) rest

/-- A request of a state is noted, written once, and settled if the write goes through. -/
theorem set_eq (requested : State)
    : toggle.set requested
      = .note (.setting toggle.name requested (toggle.tokens.line requested) toggle.path)
          (.ask (.write toggle.path (toggle.tokens.line requested)) fun
            | .ok () => toggle.settle requested
            | .error cause =>
                .note (.writeFailed toggle.name cause)
                  (.done (.error ⟨toggle.path, cause⟩))) := by
  unfold set settle
  simp only [request, log, bind_eq, Procedure.bind, pure_eq_done, ne_eq, ite_not]
  refine congrArg (note _) (congrArg (ask _) (funext fun reply => ?_))
  cases reply <;> rfl

/-- What may be asked after a write to a path: the path is read, and the service is addressed about
one id. -/
def Settles (path : AttrPath) (id? : Option UInt32) : Request → Prop
  | .read other => other = path
  | .withdraw id => id? = some id
  | .post notification => id? = some notification.id
  | .probe _ | .write .. => False

/-- Settling a write reads the attribute again and addresses the service about the notification. -/
theorem settle_only (requested : State)
    : (toggle.settle requested).Only
        (Settles toggle.path (toggle.notification.map (·.id))) := by
  refine only_bind (toggle.currentState_only.mono ?_) fun observed => ?_
  · rintro request rfl
    exact rfl
  · have rest : ((toggle.notify observed).bind fun _ =>
          (.done (.ok observed) : Procedure (Except WriteFailure State))).Only
        (Settles toggle.path (toggle.notification.map (·.id))) := by
      refine only_bind ((toggle.notify_only observed).mono ?_) fun _ => trivial
      rintro request ⟨n, hn, rfl | rfl⟩ <;> simp [Settles, hn]
    dsimp only
    split <;> exact rest

/-- A write that went through is settled with the state that the store shows and the notices of
that state. -/
theorem settle_leaves (requested : State)
    : ((toggle.settle requested).runHolding respond held device locks).Leaves
        (.finished (.ok (toggle.observe device.store)))
        (device.receiving (toggle.notices (toggle.observe device.store))) locks := by
  unfold settle
  rw [toggle.currentState_only.runHolding_bind]
  refine (toggle.currentState_leaves held device locks).andThen ?_
  have rest := (toggle.notify_leaves held device locks (toggle.observe device.store)).map
    fun _ => (.ok (toggle.observe device.store) : Except WriteFailure State)
  rw [← runHolding_map] at rest
  dsimp only
  split
  · exact rest
  · exact leaves_note rest

variable {device}

/-- A panicking write ends a request; nothing has changed, and what is held is poisoned. -/
theorem set_leaves_of_panicking (requested : State) (on : device.store.panicking = true)
    : ((toggle.set requested).runHolding respond held device locks).Leaves .panicked device
        (held.foldl .poison locks) := by
  rw [set_eq]
  exact leaves_note (leaves_ask_panicked (respond_write_of_panicking on))

/-- A refused write is the failure of the request, and nothing has changed. -/
theorem set_leaves_of_refused (requested : State) (calm : device.store.panicking = false)
    (refused : device.store.behaviour = .fail ∨ device.store.holds toggle.path = false)
    : ((toggle.set requested).runHolding respond held device locks).Leaves
        (.finished (.error ⟨toggle.path, .noAttribute⟩)) device locks := by
  rw [set_eq]
  exact leaves_note (leaves_ask (respond_write_of_refused calm refused)
    (leaves_note (leaves_done _)))

/-- A write that goes through is settled on the store that it leaves. -/
theorem set_leaves_of_accepted (requested : State) (calm : device.store.panicking = false)
    (willing : device.store.behaviour ≠ .fail)
    (present : device.store.holds toggle.path = true)
    : let written := device.accepting toggle.path (toggle.tokens.line requested)
      ((toggle.set requested).runHolding respond held device locks).Leaves
        (.finished (.ok (toggle.observe written.store)))
        (written.receiving (toggle.notices (toggle.observe written.store))) locks := by
  intro written
  rw [set_eq]
  exact leaves_note (leaves_ask (respond_write_of_accepted calm willing present)
    (toggle.settle_leaves held written locks requested))

end ModeSwitch.Toggle
