import ModeSwitch.Proofs.Settings.Changes
import ModeSwitch.Proofs.Toggle.Conversation

/-! The conversation of a change with any device.

A change looks for the attribute before it sets the toggle, and it compares the state that was read
with the requested one once more.  So a state that differs is objected to twice: by the toggle, and by
the settings.
-/

namespace ModeSwitch

open Procedure

variable {σ β : Type} {respond : Responder σ} {toggle : Toggle} {requested observed : State}
  {cause : StoreError} {state : σ}

namespace Responder

def Refuses (respond : Responder σ) (toggle : Toggle) (requested : State) (state : σ)
    (cause : StoreError)
    : Prop :=
  (respond (.write toggle.path (toggle.tokens.line requested)) state).reply = some (.error cause)

/-- The device writes what requests a state, and the read after it shows a state. -/
structure Settles (respond : Responder σ) (toggle : Toggle) (requested : State) (state : σ)
    (observed : State) : Prop where
  written
    : (respond (.write toggle.path (toggle.tokens.line requested)) state).reply = some (.ok ())
  reads
    : ∃ found,
        (respond (.read toggle.path)
          (respond (.write toggle.path (toggle.tokens.line requested)) state).state).reply
          = some found
        ∧ toggle.shown found = observed

/-- A device that answers either refuses a request of a state or settles it. -/
theorem Answers.refuses_or_settles (answers : respond.Answers) (toggle : Toggle) (requested : State)
    (state : σ)
    : (∃ cause, respond.Refuses toggle requested state cause)
      ∨ ∃ observed, respond.Settles toggle requested state observed := by
  obtain ⟨reply, replied⟩ :=
    answers.exists_reply (.write toggle.path (toggle.tokens.line requested)) state
  cases reply with
  | error cause => exact .inl ⟨cause, replied⟩
  | ok done =>
      obtain ⟨found, answered⟩ := answers.exists_reply (.read toggle.path)
        (respond (.write toggle.path (toggle.tokens.line requested)) state).state
      exact .inr ⟨toggle.shown found, replied, found, answered, rfl⟩

/-- A device does not do both. -/
theorem Refuses.not_settles (refuses : respond.Refuses toggle requested state cause)
    : ¬ respond.Settles toggle requested state observed := by
  rintro ⟨written, -⟩
  rw [refuses] at written
  cases written

theorem Refuses.unique {other : StoreError}
    (refuses : respond.Refuses toggle requested state cause)
    (refuses' : respond.Refuses toggle requested state other)
    : cause = other := by
  have same := refuses.symm.trans refuses'
  cases same
  rfl

/-- What the device shows after a write is one state. -/
theorem Settles.unique {other : State} (settles : respond.Settles toggle requested state observed)
    (settles' : respond.Settles toggle requested state other)
    : observed = other := by
  obtain ⟨-, found, answered, rfl⟩ := settles
  obtain ⟨-, found', answered', rfl⟩ := settles'
  rw [Option.some.inj (answered.symm.trans answered')]

end Responder

/-- What the settings note of a state that differs from the requested one. -/
def Settings.objection (key : String) (requested observed : State) : List Event :=
  if observed = requested then [] else [.stayed key observed requested]

theorem Settings.report_course (key : String) (held : List Nat) (state : σ) (locks : Locks)
    : ((report key requested (.ok observed)).runHolding respond held state locks).Course respond
        (.ok ⟨requested, observed⟩) [] (objection key requested observed) state locks := by
  unfold objection
  dsimp only [report]
  by_cases same : observed = requested
  · rw [if_pos same, if_pos (by simp [Outcome.accepted, same])]
    exact course_note _ (course_done _)
  · rw [if_neg same, if_neg (by simpa [Outcome.accepted] using Ne.symm same)]
    exact course_note _ (course_done _)

namespace Slot

variable {slot : Slot} (held : List Nat) (locks : Locks)

/-- If the write is refused, the change ends with its failure. -/
theorem setting_course_of_refused (key : String)
    (refuses : respond.Refuses slot.toggle requested state cause)
    : ∃ final,
        ((slot.setting key requested).runHolding respond held state locks).Course respond
          (.error (.notWritten ⟨slot.toggle.path, cause⟩))
          [.write slot.toggle.path (slot.toggle.tokens.line requested)]
          [.writeFailed slot.toggle.name cause] final locks := by
  have set := slot.toggle.set_course_of_refused held locks requested refuses
  exact ⟨_, course_bind (slot.toggle.set_lockless requested) set (course_done _)⟩

/-- If the write goes through, the change ends with the state that is shown. -/
theorem setting_course_of_settled (key : String) (answers : respond.Answers)
    (settles : respond.Settles slot.toggle requested state observed)
    : ∃ final,
        ((slot.setting key requested).runHolding respond held state locks).Course respond
          (.ok ⟨requested, observed⟩)
          (.write slot.toggle.path (slot.toggle.tokens.line requested) :: .read slot.toggle.path
            :: slot.toggle.noticeRequests observed)
          (slot.toggle.rejection requested observed ++ Settings.objection key requested observed)
          final locks := by
  obtain ⟨written, found, answered, rfl⟩ := settles
  obtain ⟨final, set⟩ :=
    slot.toggle.set_course_of_written held locks answers requested written answered
  have course := course_bind (f := Settings.report key requested)
    (slot.toggle.set_lockless requested) set (Settings.report_course key held final locks)
  rw [List.append_nil] at course
  exact ⟨final, course⟩

/-- Looking for the attribute comes before anything else, whatever it shows. -/
theorem changing_course {key : String} {value : Except ChangeError Outcome} {requests : List Request}
    {verdicts : List Event} {final : σ} (answers : respond.Answers)
    (set
      : ((slot.setting key requested).runHolding respond held
          (respond (.probe slot.toggle.path) state).state locks).Course respond value requests
          verdicts final locks)
    : ((slot.changing key requested).runHolding respond held state locks).Course respond value
        (.probe slot.toggle.path :: requests) verdicts final locks := by
  obtain ⟨present, answered⟩ := answers.exists_reply (.probe slot.toggle.path) state
  refine course_ask answered ?_
  cases present with
  | true => exact set
  | false => exact course_note _ set

end Slot

namespace Settings

variable {settings : Settings} {key : String} {slot : Slot} {locks : Locks}
  {f : Except ChangeError Outcome → Procedure β} {last : β} {events : List Event}

/-- A change of a known key takes the course of setting its toggle, while it holds the lock. -/
theorem change_course (known : settings.slot? key = some slot) (answers : respond.Answers)
    (free : (locks slot.lock).held = false) {value : Except ChangeError Outcome}
    {requests : List Request} {verdicts : List Event} {final : σ}
    (set
      : ((slot.setting key requested).runHolding respond [slot.lock]
          (respond (.probe slot.toggle.path) state).state (locks.take slot.lock)).Course respond
          value requests verdicts final (locks.take slot.lock))
    (rest
      : ∀ state,
          ((f value).runHolding respond [] state locks).Course respond last [] events state locks)
    : (((settings.change key requested).bind f).run respond state locks).Course respond last
        (.probe slot.toggle.path :: requests) (verdicts ++ events) final locks := by
  rw [change_of_known known]
  have inside := Slot.changing_course [slot.lock] (locks.take slot.lock) answers set
  simpa using course_holding (slot.changing_lockless key requested) free inside (rest final)

end Settings

end ModeSwitch
