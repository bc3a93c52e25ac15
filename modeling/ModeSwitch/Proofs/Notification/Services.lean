import ModeSwitch.Notifier.Services
import ModeSwitch.Proofs.Procedure.Agreement

/-! Services beside a store.

A notification service answers every call, by success or by failure, and notes events of its own.
Two devices with the same store and with any two such services look alike to an observer who looks
past the service, as long as both services receive the same calls.
-/

namespace ModeSwitch

variable {μ ν ρ σ : Type}

/-- A reaction that answers and notes nothing but events of the service. -/
structure Reaction.Answers (reaction : Reaction ν ρ) : Prop where
  answered : reaction.reply.isSome = true
  own : ∀ event ∈ reaction.events, event.origin = .notifier

namespace Notifier

/-- A service that answers every call, now by success and now by failure. -/
structure Answers (notifier : Notifier ν) : Prop where
  withdraw : ∀ id state, (notifier.withdraw id state).Answers
  post : ∀ notification state, (notifier.post notification state).Answers

def recorded (notifier : Notifier ν) : Notifier (ν × List NotifierCall) where
  withdraw id state :=
    let reaction := notifier.withdraw id state.1
    ⟨reaction.reply, reaction.events, reaction.state, state.2 ++ [.withdraw id]⟩
  post notification state :=
    let reaction := notifier.post notification state.1
    ⟨reaction.reply, reaction.events, reaction.state, state.2 ++ [.post notification]⟩

theorem journal_answers : (journal : Notifier ν).Answers where
  withdraw id state := ⟨rfl, by simp [journal, Event.origin]⟩
  post notification state := ⟨rfl, by simp [journal, Event.origin]⟩

end Notifier

theorem Recorder.service_answers : service.Answers where
  withdraw id recorder := ⟨rfl, by simp [service, receive]⟩
  post notification recorder := ⟨rfl, by simp [service, receive]⟩

/-- Running a program is answered, whether it starts or not and however it ends. -/
theorem CommandService.runProgram_answers (environment : Host.Environment) (command : String)
    (arguments : List String) (tree : Host.FileTree)
    : (runProgram environment command arguments tree).Answers := by
  unfold runProgram
  dsimp only
  split
  · exact ⟨rfl, by simp [Event.origin]⟩
  · exact ⟨rfl, by simp [Event.origin]⟩

/-- Whichever service a description asks for answers. -/
theorem NotifierChoice.service_answers (environment : Host.Environment) (choice : NotifierChoice)
    : (choice.service environment).Answers := by
  cases choice with
  | log => exact Notifier.journal_answers
  | command commands =>
      exact ⟨fun _ => CommandService.runProgram_answers environment _ _,
        fun _ => CommandService.runProgram_answers environment _ _⟩

def Event.isServiceWarning : Event → Bool
  | .withdrawFailed .. | .postFailed .. => true
  | _ => false

namespace Observer

/-- The observer who looks past the notification service: its replies must not matter, and neither
its own events are seen nor the warnings about calls that failed. -/
def pastService : Observer where
  heeds request := request.call? = none
  sees event := event.origin ≠ .notifier && !event.isServiceWarning

/-- Besides the events of the service nothing stays unseen but warnings of the two kinds. -/
theorem pastService_unseen {event : Event} (unseen : pastService.sees event = false)
    : event.origin = .notifier
      ∨ event.level = .warning
        ∧ ∃ toggle cause,
            event = .withdrawFailed toggle cause ∨ event = .postFailed toggle cause := by
  cases event with
  | withdrawFailed toggle cause => exact .inr ⟨rfl, toggle, cause, .inl rfl⟩
  | postFailed toggle cause => exact .inr ⟨rfl, toggle, cause, .inr rfl⟩
  | posted notification => exact .inl rfl
  | withdrawn id => exact .inl rfl
  | executing command arguments => exact .inl rfl
  | _ => cases unseen

/-- None of the events that an answering service notes is seen. -/
theorem seen_answers {reaction : Reaction ν ρ} (answers : reaction.Answers)
    : pastService.seen reaction.events = [] := by
  refine List.filter_eq_nil_iff.mpr fun event member => ?_
  simp [pastService, answers.own event member]

end Observer

structure Device.SameBeside (device : Device σ (μ × List NotifierCall))
    (other : Device σ (ν × List NotifierCall)) : Prop where
  store_eq : device.store = other.store
  calls_eq : device.notifier.2 = other.notifier.2

/-- Devices with the same store and any two services that answer are alike to whoever looks past the
service. -/
theorem Device.responder_alike (store : Store σ) {first : Notifier μ} {second : Notifier ν}
    (answers : first.Answers) (answers' : second.Answers)
    : Responder.Alike .pastService SameBeside (responder store first.recorded)
        (responder store second.recorded) where
  reply_eq := by
    rintro request ⟨files, state⟩ ⟨-, state'⟩ ⟨rfl, calls_eq⟩ heeded
    cases request with
    | withdraw id => cases heeded
    | post notification => cases heeded
    | _ => rfl
  answered_eq := by
    rintro request ⟨files, state⟩ ⟨-, state'⟩ ⟨rfl, calls_eq⟩
    cases request with
    | withdraw id =>
        exact (answers.withdraw id state.1).answered.trans
          (answers'.withdraw id state'.1).answered.symm
    | post notification =>
        exact (answers.post notification state.1).answered.trans
          (answers'.post notification state'.1).answered.symm
    | _ => rfl
  seen_eq := by
    rintro request ⟨files, state⟩ ⟨-, state'⟩ ⟨rfl, calls_eq⟩
    cases request with
    | withdraw id =>
        -- The services may note different events, but none that is seen.
        exact (Observer.seen_answers (answers.withdraw id state.1)).trans
          (Observer.seen_answers (answers'.withdraw id state'.1)).symm
    | post notification =>
        exact (Observer.seen_answers (answers.post notification state.1)).trans
          (Observer.seen_answers (answers'.post notification state'.1)).symm
    | _ => rfl
  related := by
    have receives {calls calls' : List NotifierCall} (same : calls = calls') (call : NotifierCall)
        : calls ++ [call] = calls' ++ [call] :=
      congrArg (· ++ [call]) same
    rintro request ⟨files, state⟩ ⟨-, state'⟩ ⟨rfl, calls_eq⟩
    cases request with
    | withdraw id => exact ⟨rfl, receives calls_eq (.withdraw id)⟩
    | post notification => exact ⟨rfl, receives calls_eq (.post notification)⟩
    | _ => exact ⟨rfl, calls_eq⟩

end ModeSwitch
