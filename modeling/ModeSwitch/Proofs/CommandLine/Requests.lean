import ModeSwitch.CommandLine.Program
import ModeSwitch.Proofs.Notification.Services
import ModeSwitch.Proofs.Settings.Conversation

/-! The course of a command that sets a toggle.

On any device that serves, what the command concludes follows from the lookup of the key and from the
replies of the device to the write and to the read after it.
-/

namespace ModeSwitch

open Procedure

/-! ## Devices that serve -/

/-- A device that answers every request, and notes nothing but events of a store or of a notification
service. -/
structure Responder.Serves {σ : Type} (respond : Responder σ) : Prop where
  answers : respond.Answers
  own
    : ∀ request state,
        ∀ event ∈ (respond request state).events,
          event.origin = .attribute ∨ event.origin = .notifier

namespace Responder

variable {σ : Type}

/-- Verdicts come from the program, never from a store or a service. -/
theorem Serves.discreet {respond : Responder σ} (serves : respond.Serves) : respond.Discreet := by
  intro request state
  refine List.filter_eq_nil_iff.mpr fun event member verdict => ?_
  -- No verdict has the origin of a store or of a service.
  have origin := serves.own request state event member
  cases event <;> simp_all [Event.origin, Event.isVerdict, Event.level]

/-- The files of a host serve, beside whichever service. -/
theorem serves_fileStore {service : Notifier Host.FileTree} (answers : service.Answers)
    : Serves (Device.sharing fileStore service) where
  answers request tree := by
    cases request with
    | probe path => rfl
    | read path => rfl
    | write path contents =>
        dsimp only [Device.sharing, fileStore]
        cases tree.writeText path.text contents <;> rfl
    | withdraw id => exact (answers.withdraw id tree).answered
    | post notification => exact (answers.post notification tree).answered
  own request tree event member := by
    cases request with
    | probe path => cases member
    | read path =>
        dsimp only [Device.sharing, fileStore] at member
        cases found : tree.readText path.text with
        | error cause => simp [found, readEvents] at member
        | ok text => simp_all [readEvents, Event.origin]
    | write path contents =>
        dsimp only [Device.sharing, fileStore] at member
        cases wrote : tree.writeText path.text contents <;>
          simp_all [writeEvents, Event.origin]
    | withdraw id => exact .inr ((answers.withdraw id tree).own event member)
    | post notification => exact .inr ((answers.post notification tree).own event member)

end Responder

def Request.isWrite : Request → Bool
  | .write .. => true
  | .probe _ | .read _ | .withdraw _ | .post _ => false

/-- The notification service is asked for no write. -/
theorem Toggle.filter_noticeRequests (toggle : Toggle) (observed : State)
    : (toggle.noticeRequests observed).filter Request.isWrite = [] := by
  unfold noticeRequests
  cases toggle.notification with
  | none => rfl
  | some notification => cases observed <;> rfl

namespace CommandLine

variable {σ : Type} {respond : Responder σ} {state : σ} {locks : Locks}

/-! ## Requests -/

namespace Command

def conclude (key : String) : Except ChangeError Outcome → Procedure Conclusion
  | .ok outcome =>
      .done ⟨[outcome.describe key], if outcome.accepted then 0 else Conclusion.rejectedCode, []⟩
  | .error cause => .note (.refused cause) (.done ⟨[], Conclusion.failureCode, []⟩)

variable {settings : Settings} {key : String} {slot : Slot} {requested observed : State}
  {cause : StoreError}

theorem request_eq (settings : Settings) (key : String) (requested : State)
    : request settings key requested = (settings.change key requested).bind (conclude key) :=
  congrArg (Procedure.bind _) (funext fun result => by cases result <;> rfl)

theorem request_course_of_unknown (unknown : settings.slot? key = none) (requested : State)
    : ((request settings key requested).run respond state locks).Course respond
        ⟨[], Conclusion.failureCode, []⟩ [] [.refused (.unknownToggle key)] state locks := by
  rw [request_eq, Settings.change_of_unknown unknown]
  exact course_note _ (course_done _)

/-- After a refused write the command concludes that it failed. -/
theorem request_course_of_refused (known : settings.slot? key = some slot)
    (answers : respond.Answers) (free : (locks slot.lock).held = false)
    (refuses
      : respond.Refuses slot.toggle requested (respond (.probe slot.toggle.path) state).state cause)
    : ∃ final,
        ((request settings key requested).run respond state locks).Course respond
          ⟨[], Conclusion.failureCode, []⟩
          [.probe slot.toggle.path, .write slot.toggle.path (slot.toggle.tokens.line requested)]
          [.writeFailed slot.toggle.name cause, .refused (.notWritten ⟨slot.toggle.path, cause⟩)]
          final locks := by
  obtain ⟨final, set⟩ :=
    slot.setting_course_of_refused [slot.lock] (locks.take slot.lock) key refuses
  refine ⟨final, ?_⟩
  rw [request_eq]
  exact Settings.change_course known answers free set fun _ => course_note _ (course_done _)

/-- After a write the command concludes from the state that the device shows. -/
theorem request_course_of_settled (known : settings.slot? key = some slot)
    (answers : respond.Answers) (free : (locks slot.lock).held = false)
    (settles
      : respond.Settles slot.toggle requested (respond (.probe slot.toggle.path) state).state observed)
    : ∃ final,
        ((request settings key requested).run respond state locks).Course respond
          ⟨[Outcome.describe ⟨requested, observed⟩ key],
            if Outcome.accepted ⟨requested, observed⟩ then 0 else Conclusion.rejectedCode, []⟩
          (.probe slot.toggle.path
            :: .write slot.toggle.path (slot.toggle.tokens.line requested)
            :: .read slot.toggle.path :: slot.toggle.noticeRequests observed)
          (slot.toggle.rejection requested observed ++ Settings.objection key requested observed)
          final locks := by
  obtain ⟨final, set⟩ :=
    slot.setting_course_of_settled [slot.lock] (locks.take slot.lock) key answers settles
  refine ⟨final, ?_⟩
  rw [request_eq]
  have course :=
    Settings.change_course (f := conclude key) known answers free set fun _ => course_done _
  rw [List.append_nil] at course
  exact course

end Command

end CommandLine

end ModeSwitch
