import ModeSwitch.Proofs.Notification.Services
import ModeSwitch.Proofs.Toggle.Protocol

/-! A toggle does not depend on the notification service.

Only bringing the notification in line addresses the service.  After either answer the toggle goes on
in the same way, but for a warning about the failure.
-/

namespace ModeSwitch.Toggle

open Procedure

variable (toggle : Toggle)

theorem repost_agrees (notification : Notification) (observed : State)
    : (toggle.repost notification observed).Agree .pastService
        (toggle.repost notification observed) := by
  cases observed with
  | disabled => exact .done ()
  | enabled =>
      refine .ask_noted (fun reply => ?_) (.done ())
      cases reply with
      | ok done => exact .inl rfl
      | error cause => exact .inr ⟨.postFailed toggle.name cause, rfl, rfl⟩

/-- The notification is posted again whether or not it was withdrawn, so what the service answers to
either call decides about warnings only. -/
theorem notify_agrees (observed : State)
    : (toggle.notify observed).Agree .pastService (toggle.notify observed) := by
  cases h : toggle.notification with
  | none =>
      have nothing : toggle.notify observed = .done () := by simp [notify, h]
      rw [nothing]
      exact .done ()
  | some n =>
      rw [toggle.notify_eq h]
      refine .ask_noted (fun reply => ?_) (toggle.repost_agrees n observed)
      cases reply with
      | ok done => exact .inl rfl
      | error cause => exact .inr ⟨.withdrawFailed toggle.name cause, rfl, rfl⟩

/-- What the service answers makes no difference to how a request is settled. -/
theorem settle_agrees (requested : State)
    : (toggle.settle requested).Agree .pastService (toggle.settle requested) := by
  -- The state is read from the store, so both sides observe the same.
  have reads : toggle.currentState.Agree .pastService toggle.currentState := by
    refine toggle.currentState_only.agree ?_
    rintro request rfl
    rfl
  refine reads.bind fun observed => ?_
  have rest := (toggle.notify_agrees observed).bind fun _ =>
    Agree.done (.ok observed : Except WriteFailure State)
  dsimp only
  split
  · exact rest
  · exact .note _ rest

/-- Setting a toggle depends on the replies of the store only. -/
theorem set_agrees (requested : State)
    : (toggle.set requested).Agree .pastService (toggle.set requested) := by
  rw [set_eq]
  refine .note _ (.ask fun reply reply' same => ?_)
  obtain rfl := same rfl
  cases reply with
  | ok done => exact toggle.settle_agrees requested
  | error cause => exact .note _ (.done _)

end ModeSwitch.Toggle
