import ModeSwitch.Proofs.Session.Observations

/-! What is left of a request that does not go through.

A request asks to change an attribute: it sets a toggle, changes a setting, or writes to the store.
It goes through, fails and leaves the session as it was, or panics and leaves no trace but a poisoned
lock.
-/

namespace ModeSwitch

open Procedure RecordingDevice

def Operation.isRequest : Operation → Bool
  | .change .. | .set .. | .storeWrite .. => true
  | _ => false

def Answer.isError : Answer → Bool
  | .written (.error _) | .set (.error _) | .change _ (.error _) | .unknownToggle _ => true
  | _ => false

namespace Session

variable {surface : Surface} {session : Session RecordingDevice} {operation : Operation}
  {device : RecordingDevice} {locks : Locks} {seen : Snapshot}

theorem operate_of_leaves {answer : Answer}
    (left
      : ((surface.perform session.seen operation).run respond session.device session.locks).Leaves
          (.finished (answer, seen)) device locks)
    : let made := session.operate .recording surface operation
      made.1 = .finished answer ∧ made.2.2 = ⟨device, locks, seen⟩ := by
  have ran : session.run .recording (surface.perform session.seen operation)
      = (surface.perform session.seen operation).run respond session.device session.locks := rfl
  obtain ⟨ending_eq, rfl, rfl⟩ := left
  simp only [operate, ran, ending_eq, after, and_self]

theorem operate_of_leaves_panicked
    (left
      : ((surface.perform session.seen operation).run respond session.device session.locks).Leaves
          .panicked device locks)
    : let made := session.operate .recording surface operation
      made.1 = .panicked ∧ made.2.2 = ⟨device, locks, session.seen⟩ := by
  have ran : session.run .recording (surface.perform session.seen operation)
      = (surface.perform session.seen operation).run respond session.device session.locks := rfl
  obtain ⟨ending_eq, rfl, rfl⟩ := left
  simp only [operate, ran, ending_eq, after, and_self]

/-- How a request may end, and what it then leaves. -/
inductive Attempt (session : Session RecordingDevice)
    : Ending Answer → Session RecordingDevice → Prop where
  /-- A write panicked: locks may be poisoned, but none is held. -/
  | panicked (locks : Locks) (free : locks.Free)
    : Attempt session .panicked { session with locks }
  | failed (answer : Answer) (error : answer.isError = true)
    : Attempt session (.finished answer) session
  | settled (answer : Answer) (later : Session RecordingDevice) (fine : answer.isError = false)
    : Attempt session (.finished answer) later

namespace Attempt

variable {made : Ending Answer × List Event × Session RecordingDevice}

theorem of_panicked (free : locks.Free)
    (left : made.1 = .panicked ∧ made.2.2 = ⟨session.device, locks, session.seen⟩)
    : session.Attempt made.1 made.2.2 := by
  rw [left.1, left.2]
  exact .panicked locks free

theorem of_failed {answer : Answer} (error : answer.isError = true)
    (left
      : made.1 = .finished answer
        ∧ made.2.2 = ⟨session.device, session.locks, session.seen⟩)
    : session.Attempt made.1 made.2.2 := by
  rw [left.1, left.2]
  exact .failed answer error

theorem of_settled {answer : Answer} {later : Session RecordingDevice}
    (fine : answer.isError = false) (left : made.1 = .finished answer ∧ made.2.2 = later)
    : session.Attempt made.1 made.2.2 := by
  rw [left.1, left.2]
  exact .settled answer later fine

end Attempt

variable (surface session)

/-- A write to the store is attempted. -/
theorem storeWrite_attempt (path : AttrPath) (contents : String) (free : session.locks.Free)
    : let made := session.operate .recording surface (.storeWrite path contents)
      session.Attempt made.1 made.2.2 := by
  rcases session.device.store.takes path with on | ⟨calm, refused⟩ | ⟨calm, willing, present⟩
  · exact .of_panicked free (operate_of_leaves_panicked
      (leaves_ask_panicked (respond_write_of_panicking on)))
  · exact .of_failed rfl (operate_of_leaves
      (leaves_ask (respond_write_of_refused calm refused) (leaves_done _)))
  · exact .of_settled rfl (operate_of_leaves
      (leaves_ask (respond_write_of_accepted calm willing present) (leaves_done _)))

variable {surface session} in
/-- Whatever requests a state of a toggle is attempted, if a failure of the toggle is answered with an
error and nothing that it observes is. -/
theorem attempt_of_requested {requested : State} {toggle? : Option Toggle}
    {answer : Option (Except WriteFailure State) → Answer}
    {ending : Ending (Option (Except WriteFailure State))}
    (fails : ∀ failure, (answer (some (.error failure))).isError = true)
    (settles : ∀ observed, (answer (some (.ok observed))).isError = false)
    (made : Toggle.Requested session.device session.locks requested toggle? ending device locks)
    (left
      : ((surface.perform session.seen operation).run respond session.device session.locks).Leaves
          (ending.map fun result => (answer result, session.seen)) device locks)
    : let made := session.operate .recording surface operation
      session.Attempt made.1 made.2.2 := by
  cases made with
  | missing =>
      -- Only a key without a toggle is an error; the session need not have a toggle of its own.
      cases error : (answer none).isError with
      | true => exact .of_failed error (operate_of_leaves left)
      | false => exact .of_settled error (operate_of_leaves left)
  | panicked toggle locks free => exact .of_panicked free (operate_of_leaves_panicked left)
  | refused toggle => exact .of_failed (fails _) (operate_of_leaves left)
  | accepted toggle written wrote => exact .of_settled (settles _) (operate_of_leaves left)

/-- A request of a state is attempted. -/
theorem set_attempt (subject : Subject) (requested : State) (free : session.locks.Free)
    : let made := session.operate .recording surface (.set subject requested)
      session.Attempt made.1 made.2.2 := by
  obtain ⟨ending, device, locks, made, left⟩ := Surface.set_requested subject requested free
  exact attempt_of_requested (fun _ => rfl) (fun _ => rfl) made left

/-- A change is attempted. -/
theorem change_attempt (key : String) (requested : State) (free : session.locks.Free)
    : let made := session.operate .recording surface (.change key requested)
      session.Attempt made.1 made.2.2 := by
  obtain ⟨ending, device, locks, made, left⟩ := Surface.change_requested key requested free
  exact attempt_of_requested (fun _ => rfl) (fun _ => rfl) made left

/-- Every request is attempted. -/
theorem operate_attempt (h : operation.isRequest = true) (free : session.locks.Free)
    : let made := session.operate .recording surface operation
      session.Attempt made.1 made.2.2 := by
  cases operation with
  | storeWrite path contents => exact storeWrite_attempt surface session path contents free
  | set subject requested => exact set_attempt surface session subject requested free
  | change key requested => exact change_attempt surface session key requested free
  | _ => cases h

end Session

end ModeSwitch
