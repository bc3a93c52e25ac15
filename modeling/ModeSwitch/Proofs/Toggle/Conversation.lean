import ModeSwitch.Proofs.Mode.Encoding
import ModeSwitch.Proofs.Procedure.Courses
import ModeSwitch.Proofs.Settings.Changes

/-! The conversation of a toggle with any device.

A store and a notification service may answer as they like, and differently every time.  A request of
a state is still one write; only if it goes through, one read follows, and what the read shows decides
alone how the service is addressed and which state is returned.
-/

namespace ModeSwitch

open Procedure

namespace Toggle

variable (toggle : Toggle)

def shown : Except StoreError String → State
  | .ok raw => (toggle.tokens.classify raw).state
  | .error _ => .disabled

def noticeRequests (observed : State) : List Request :=
  match toggle.notification with
  | none => []
  | some notification =>
      .withdraw notification.id :: if observed = .enabled then [.post notification] else []

/-- Only a read that succeeds with a line of the enabled token shows that a toggle is on. -/
theorem shown_eq_enabled_iff (found : Except StoreError String)
    : toggle.shown found = .enabled
      ↔ ∃ raw, found = .ok raw ∧ Text.trimLineEnds raw = toggle.tokens.enabled := by
  cases found with
  | error cause => simp [shown]
  | ok raw => simp [shown, Tokens.classify_state_eq_enabled_iff]

variable {σ : Type} {respond : Responder σ} (held : List Nat) {state : σ} (locks : Locks)

/-- Whatever the device replies to the one read of a toggle decides about its state. -/
theorem currentState_course {found : Except StoreError String}
    (answered : (respond (.read toggle.path) state).reply = some found)
    : (toggle.currentState.runHolding respond held state locks).Course respond
        (toggle.shown found) [.read toggle.path] [] (respond (.read toggle.path) state).state
        locks := by
  unfold currentState readMode
  simp only [request, log, bind_eq, Procedure.bind, pure_eq_done]
  refine course_ask answered ?_
  cases found with
  | error cause => exact course_note _ (course_note _ (course_done _))
  | ok raw =>
      dsimp only [shown]
      cases toggle.tokens.classify raw with
      | enabled => exact course_note _ (course_done _)
      | disabled => exact course_note _ (course_done _)
      | unrecognized value => exact course_note _ (course_note _ (course_done _))

/-- The service is asked to withdraw and then, if the state is enabled, to post, whatever it makes of
the withdrawal. -/
theorem notify_course (answers : respond.Answers) (state : σ) (observed : State)
    : ∃ final,
        ((toggle.notify observed).runHolding respond held state locks).Course respond ()
          (toggle.noticeRequests observed) [] final locks := by
  cases h : toggle.notification with
  | none =>
      refine ⟨state, ?_⟩
      simpa [notify, noticeRequests, h] using course_done ()
  | some n =>
      -- The service may have changed its state over the withdrawal, so posting is looked at from any.
      have posting (state : σ)
          : ∃ final,
              ((toggle.repost n observed).runHolding respond held state locks).Course respond ()
                (if observed = .enabled then [.post n] else []) [] final locks := by
        cases observed with
        | disabled => exact ⟨state, by simpa [repost] using course_done ()⟩
        | enabled =>
            obtain ⟨reply, answered⟩ := answers.exists_reply (.post n) state
            refine ⟨(respond (.post n) state).state, course_ask answered ?_⟩
            cases reply with
            | ok done => exact course_done ()
            | error cause => exact course_note _ (course_done ())
      obtain ⟨reply, answered⟩ := answers.exists_reply (.withdraw n.id) state
      obtain ⟨final, after⟩ := posting (respond (.withdraw n.id) state).state
      refine ⟨final, ?_⟩
      simp only [toggle.notify_eq h, noticeRequests, h]
      refine course_ask answered ?_
      cases reply with
      | ok done => exact after
      | error cause => exact course_note _ after

/-- What a toggle notes of a state that differs from the requested one. -/
def rejection (requested observed : State) : List Event :=
  if observed = requested then [] else [.rejected toggle.name requested observed]

/-- After a write, one read decides about the calls to the service and about the result. -/
theorem settle_course (answers : respond.Answers) (requested : State)
    {found : Except StoreError String}
    (answered : (respond (.read toggle.path) state).reply = some found)
    : ∃ final,
        ((toggle.settle requested).runHolding respond held state locks).Course respond
          (.ok (toggle.shown found))
          (.read toggle.path :: toggle.noticeRequests (toggle.shown found))
          (toggle.rejection requested (toggle.shown found)) final locks := by
  obtain ⟨final, notified⟩ :=
    toggle.notify_course held locks answers (respond (.read toggle.path) state).state
      (toggle.shown found)
  refine ⟨final, ?_⟩
  have rest := course_bind
    (f := fun _ => .done (.ok (toggle.shown found) : Except WriteFailure State))
    (toggle.notify_only (toggle.shown found)).lockless notified (course_done _)
  rw [List.append_nil, List.append_nil] at rest
  -- The note of a rejection comes before the calls to the service, and changes nothing else.
  have decided
      : ((if toggle.shown found = requested then
            (toggle.notify (toggle.shown found)).bind fun _ =>
              (.done (.ok (toggle.shown found)) : Procedure (Except WriteFailure State))
          else
            .note (.rejected toggle.name requested (toggle.shown found))
              ((toggle.notify (toggle.shown found)).bind fun _ =>
                .done (.ok (toggle.shown found)))).runHolding respond held
            (respond (.read toggle.path) state).state locks).Course respond
          (.ok (toggle.shown found)) (toggle.noticeRequests (toggle.shown found))
          (toggle.rejection requested (toggle.shown found)) final locks := by
    unfold rejection
    split
    · exact rest
    · exact course_note _ rest
  exact course_bind toggle.currentState_only.lockless
    (toggle.currentState_course held locks answered) decided

/-- A write that fails is the end of a request. -/
theorem set_course_of_refused (requested : State) {cause : StoreError}
    (refused
      : (respond (.write toggle.path (toggle.tokens.line requested)) state).reply
        = some (.error cause))
    : ((toggle.set requested).runHolding respond held state locks).Course respond
        (.error ⟨toggle.path, cause⟩) [.write toggle.path (toggle.tokens.line requested)]
        [.writeFailed toggle.name cause]
        (respond (.write toggle.path (toggle.tokens.line requested)) state).state locks := by
  rw [set_eq]
  exact course_note _ (course_ask refused (course_note _ (course_done _)))

/-- A write that goes through is followed by a read, and then by what the read makes necessary. -/
theorem set_course_of_written (answers : respond.Answers) (requested : State)
    {found : Except StoreError String}
    (written
      : (respond (.write toggle.path (toggle.tokens.line requested)) state).reply = some (.ok ()))
    (answered
      : (respond (.read toggle.path)
          (respond (.write toggle.path (toggle.tokens.line requested)) state).state).reply
        = some found)
    : ∃ final,
        ((toggle.set requested).runHolding respond held state locks).Course respond
          (.ok (toggle.shown found))
          (.write toggle.path (toggle.tokens.line requested) :: .read toggle.path
            :: toggle.noticeRequests (toggle.shown found))
          (toggle.rejection requested (toggle.shown found)) final locks := by
  obtain ⟨final, settled⟩ := toggle.settle_course held locks answers requested answered
  rw [set_eq]
  exact ⟨final, course_note _ (course_ask written settled)⟩

/-- On any device that answers, a request of a state is one write, of the token of that state and a
line feed.  If it fails, that is all, and the failure is returned; otherwise one read follows, and the
state that it shows decides what the service is asked and is returned.  The device may remember
everything that it was asked before. -/
theorem set_keeps_protocol (toggle : Toggle) (requested : State) {σ : Type} (respond : Responder σ)
    (answers : respond.Answers) (state : σ) (locks : Locks)
    : let token := if requested = .enabled then toggle.tokens.enabled else toggle.tokens.disabled
      let line := token ++ "\n"
      let written := respond (.write toggle.path line) state
      let run := (toggle.set requested).run respond state locks
      (∃ cause,
        written.reply = some (.error cause)
        ∧ run.requests = [.write toggle.path line]
        ∧ run.ending = .finished (.error ⟨toggle.path, cause⟩))
      ∨ ∃ found observed,
          written.reply = some (.ok ())
          ∧ (respond (.read toggle.path) written.state).reply = some found
          ∧ (observed = .enabled
            ↔ ∃ raw, found = .ok raw ∧ Text.trimLineEnds raw = toggle.tokens.enabled)
          ∧ run.requests
            = .write toggle.path line :: .read toggle.path :: toggle.noticeRequests observed
          ∧ run.ending = .finished (.ok observed) := by
  dsimp only
  rw [← toggle.tokens.line_eq requested]
  obtain ⟨reply, replied⟩ :=
    answers.exists_reply (.write toggle.path (toggle.tokens.line requested)) state
  cases reply with
  | error cause =>
      have course := toggle.set_course_of_refused [] locks requested replied
      exact .inl ⟨cause, replied, course.requests_eq, course.ending_eq⟩
  | ok done =>
      obtain ⟨found, answered⟩ := answers.exists_reply (.read toggle.path)
        (respond (.write toggle.path (toggle.tokens.line requested)) state).state
      obtain ⟨final, course⟩ :=
        toggle.set_course_of_written [] locks answers requested replied answered
      exact .inr ⟨found, toggle.shown found, replied, answered,
        toggle.shown_eq_enabled_iff found, course.requests_eq, course.ending_eq⟩

end Toggle

/-- A device that remembers what it was asked.  Its driver ignores every write, and its service fails
whatever it is asked first. -/
def Responder.stubborn : Responder (List Request)
  | .probe path, asked => ⟨some true, [], .probe path :: asked⟩
  | .read path, asked => ⟨some (.ok "1\n"), [], .read path :: asked⟩
  | .write path contents, asked => ⟨some (.ok ()), [], .write path contents :: asked⟩
  | .withdraw id, asked => ⟨some (.error .unavailable), [], .withdraw id :: asked⟩
  | .post notification, asked =>
      let answer :=
        if asked.contains (.withdraw notification.id) then .ok () else .error .unavailable
      ⟨some answer, [], .post notification :: asked⟩

theorem Responder.stubborn_answers : stubborn.Answers := by
  intro request asked
  cases request <;> rfl

namespace Toggle

/-- The driver keeps the switch on, whichever state is requested, and the service fails to withdraw: it
is asked to post all the same, and the state that was read is returned. -/
theorem fast_keeps_protocol
    : let notice : Notification := ⟨1, "Fast charging", "On.", "device_settings"⟩
      let fast : Toggle := ⟨"fast", ⟨"/sys/charge/mode"⟩, ⟨"1", "0"⟩, some notice⟩
      let run (requested : State) := (fast.set requested).run Responder.stubborn [] .fresh
      let told : List Request := [.read fast.path, .withdraw 1, .post notice]
      Responder.stubborn.Answers
      ∧ (run .disabled).requests = .write fast.path "0\n" :: told
      ∧ (run .enabled).requests = .write fast.path "1\n" :: told
      ∧ ∀ requested, (run requested).ending = .finished (.ok .enabled) := by
  intro notice fast run told
  have kept (requested : State)
      : let token := if requested = .enabled then "1" else "0"
        (run requested).requests = .write fast.path (token ++ "\n") :: told
        ∧ (run requested).ending = .finished (.ok .enabled) := by
    rcases set_keeps_protocol fast requested Responder.stubborn Responder.stubborn_answers [] .fresh
      with ⟨cause, refused, -⟩ | ⟨found, observed, -, answered, shows, requests, ending⟩
    · cases refused
    · obtain rfl : Except.ok "1\n" = found := Option.some.inj answered
      obtain rfl : observed = .enabled := shows.mpr ⟨"1\n", rfl, by decide⟩
      exact ⟨requests, ending⟩
  exact ⟨Responder.stubborn_answers, (kept .disabled).1, (kept .enabled).1,
    fun requested => (kept requested).2⟩

end Toggle

end ModeSwitch
