import ModeSwitch.Proofs.Session.Invariants
import ModeSwitch.Proofs.Session.Omission
import ModeSwitch.Proofs.Session.Requests

/-! Requests that fail.

A request that is answered with an error has changed nothing, so a session goes on as if it had not
been made.  Attributes come and go from outside only.
-/

namespace ModeSwitch

def failedRequest {ι : Type} (made : Move ι × MoveReport) : Bool :=
  match made.1, made.2.ending with
  | .operate operation, .finished answer => operation.isRequest && answer.isError
  | _, _ => false

namespace Session

variable {surface : Surface}

/-- A request that fails leaves the session as it was. -/
theorem operate_of_failed (session : Session RecordingDevice) (free : session.locks.Free)
    {operation : Operation} (request : operation.isRequest = true) {answer : Answer}
    (ended : (session.operate .recording surface operation).1 = .finished answer)
    (error : answer.isError = true)
    : (session.operate .recording surface operation).2.2 = session := by
  have attempt := operate_attempt surface session request free
  dsimp only at attempt
  generalize (session.operate .recording surface operation).1 = ending at *
  generalize (session.operate .recording surface operation).2.2 = later at *
  cases attempt with
  | panicked locks free => cases ended
  | failed answer error => rfl
  | settled other later fine =>
      cases ended
      simp [error] at fine

/-- A failed request leaves the whole session as it was. -/
theorem advance_of_failed (session : Session RecordingDevice) (free : session.locks.Free)
    {next : Move MemoryStore.Intervention}
    (failed : failedRequest (next, (session.advance .recording surface next).1) = true)
    : (session.advance .recording surface next).2 = session := by
  cases next with
  | operate operation =>
      have ending_eq : (session.advance .recording surface (.operate operation)).1.ending
          = (session.operate .recording surface operation).1 := rfl
      simp only [failedRequest, ending_eq] at failed
      cases ended : (session.operate .recording surface operation).1 with
      | finished answer =>
          simp only [ended, Bool.and_eq_true] at failed
          exact operate_of_failed session free failed.1 ended failed.2
      | panicked => simp [ended] at failed
      | blocked => simp [ended] at failed
  | together changes => cases failed
  | intervene change => cases failed
  | inspect path => cases failed

/-- At every point of a session the next move adds or removes an attribute only if it is done from
outside for this purpose, and a request that fails leaves everything as it was: the contents of the
attributes, the writes and the calls recorded.  So whichever failed requests are left out of a
session, the other moves are reported as they were, and the session ends in the same state. -/
theorem failed_requests_leave_no_trace (config : Config) (own : Option Toggle)
    (device : RecordingDevice) (moves : List (Move MemoryStore.Intervention))
    : let surface : Surface := ⟨.ofConfig config, own⟩
      let course := (start device).runAll .recording surface moves
      (∀ next path,
          (course.2.advance .recording surface next).2.device.store.holds path
            ≠ course.2.device.store.holds path
          → next.Places)
      ∧ (∀ next,
          failedRequest (next, (course.2.advance .recording surface next).1) = true
          → (course.2.advance .recording surface next).2 = course.2)
      ∧ ∀ rest,
          Omits (failedRequest · = true) (moves.zip course.1) rest
          → (start device).runAll .recording surface (rest.map (·.1))
            = (rest.map (·.2), course.2) := by
  intro surface course
  have free : course.2.locks.Free := runAll_free moves (start device) Locks.free_fresh
  refine ⟨fun next path differs => ?_, fun next failed => ?_, fun rest omitted => ?_⟩
  · by_contra places
    exact differs (advance_holds places course.2 path)
  · exact advance_of_failed course.2 free failed
  · -- A session is compared with itself, and no lock is held whenever a request fails.
    obtain ⟨reports, ⟨same, -⟩⟩ := runAll_omits
      (fun session other : Session RecordingDevice => session = other ∧ session.locks.Free)
      (by
        rintro session other next ⟨rfl, free⟩
        exact ⟨rfl, rfl, advance_free next session free⟩)
      (by
        rintro session other next ⟨rfl, free⟩ failed
        have unchanged := advance_of_failed session free failed
        exact ⟨unchanged, unchanged.symm ▸ free⟩)
      ⟨rfl, Locks.free_fresh⟩ omitted
    exact Prod.ext reports same.symm

/-- A charger keeps its attributes and its settings while requests fail for an unknown key, a missing
attribute and a driver that refuses; without the failed requests nothing else happens. -/
theorem charger_failed_requests_leave_no_trace
    : let moves : List (Move MemoryStore.Intervention) :=
        [.operate (.change "fast" .enabled), .operate (.change "slow" .enabled),
          .intervene (.remove ⟨"/sys/light"⟩), .operate (.set (.keyed "light") .enabled),
          .intervene (.behave .fail), .operate (.storeWrite ⟨"/sys/charge//mode"⟩ "2\n"),
          .operate (.state (.keyed "fast"))]
      let surface : Surface := ⟨.ofConfig .charger, none⟩
      let course := (start ⟨.charger, .fresh false⟩).runAll .recording surface moves
      let rest := (moves.zip course.1).filter fun made => !failedRequest made
      rest.length = 4
      ∧ ((start ⟨.charger, .fresh false⟩).runAll .recording surface (rest.map (·.1))).2
        = course.2 := by
  intro moves surface course rest
  obtain ⟨-, -, traceless⟩ :=
    failed_requests_leave_no_trace .charger none ⟨.charger, .fresh false⟩ moves
  have omitted : Omits (failedRequest · = true) (moves.zip course.1) rest := omits_filter _ _
  refine ⟨by decide +kernel, ?_⟩
  rw [traceless rest omitted]

end Session

end ModeSwitch
