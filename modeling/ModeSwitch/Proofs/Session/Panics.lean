import ModeSwitch.Proofs.Session.Agreement
import ModeSwitch.Proofs.Session.Invariants
import ModeSwitch.Proofs.Session.Omission
import ModeSwitch.Proofs.Session.Requests

/-! Requests that panic.

A write panics before it changes anything, so all that is left of a request that panicked is the
poisoned lock of its attribute.  A poisoned lock is taken like any other, and nobody learns that it
was poisoned.
-/

namespace ModeSwitch

open Procedure RecordingDevice

def panickedRequest {ι : Type} (made : Move ι × MoveReport) : Bool :=
  match made.1, made.2.ending with
  | .operate operation, .panicked => operation.isRequest
  | _, _ => false

/-- Whoever heeds every reply and sees every event still cannot tell an operation from itself: the
locks are all that it does not compare. -/
theorem Surface.perform_agrees_full (surface : Surface) (seen : Snapshot) (operation : Operation)
    : (surface.perform seen operation).Agree .full (surface.perform seen operation) := by
  by_cases change : ∃ key requested, operation = .change key requested
  · obtain ⟨key, requested, rfl⟩ := change
    exact perform_agrees (fun _ _ => trivial)
      (fun t requested => (t.set_lockless requested).agree fun _ _ => trivial) id
  · have lockless : (surface.perform seen operation).Lockless :=
      perform_lockless fun key requested h => change ⟨key, requested, h⟩
    exact lockless.agree fun _ _ => trivial

theorem Responder.Alike.refl {σ : Type} (respond : Responder σ)
    : Responder.Alike .full Eq respond respond where
  reply_eq := by rintro request s t rfl -; rfl
  answered_eq := by rintro request s t rfl; rfl
  seen_eq := by rintro request s t rfl; rfl
  related := by rintro request s t rfl; rfl

theorem Bench.Alike.refl {δ ι : Type} (bench : Bench δ ι) : Bench.Alike .full Eq bench bench where
  respond := .refl bench.respond
  intervene := by rintro s t change rfl; rfl
  inspect_eq := by rintro s t rfl; rfl
  writes_eq := by rintro s t rfl; rfl
  calls_eq := by rintro s t rfl; rfl

namespace Settings

/-- A change finishes or panics, since it finds its lock free. -/
theorem change_not_blocked (settings : Settings) (key : String) (requested : State)
    (device : RecordingDevice) {locks : Locks} (free : locks.Free)
    : ((settings.change key requested).run respond device locks).ending ≠ .blocked := by
  cases known : settings.slot? key with
  | none =>
      rw [change_of_unknown known]
      simp [run, runHolding]
  | some slot =>
      have lockless := slot.changing_lockless key requested
      obtain ⟨ending_eq, -, -⟩ := run_holding respond lockless free slot.lock device
      rw [change_of_known known, ending_eq]
      rcases lockless.finished_or_panicked respond [] device .fresh with ⟨_, ended, -⟩ | ⟨ended, -⟩
      · simp [run, ended]
      · simp [run, ended]

/-- A change that panicked left the lock of its slot poisoned. -/
theorem poisoned_of_panicked {settings : Settings} {key : String} {requested : State}
    {device : RecordingDevice} {locks : Locks} (free : locks.Free)
    (panicked : ((settings.change key requested).run respond device locks).ending = .panicked)
    : ∃ slot,
        settings.slot? key = some slot
        ∧ (((settings.change key requested).run respond device locks).locks slot.lock).poisoned
          = true := by
  cases known : settings.slot? key with
  | none =>
      rw [change_of_unknown known] at panicked
      cases panicked
  | some slot =>
      refine ⟨slot, rfl, ?_⟩
      rcases device.store.takes slot.toggle.path with
        on | ⟨calm, refused⟩ | ⟨calm, willing, present⟩
      · have left := change_leaves_of_panicking known requested (free slot.lock) on
        rw [left.locks_eq]
        simp [Locks.poison, Locks.set]
      · have left := change_leaves_of_refused known requested (free slot.lock) calm refused
        rw [left.ending_eq] at panicked
        cases panicked
      · have left := change_leaves_of_accepted known requested (free slot.lock) calm willing present
        rw [left.ending_eq] at panicked
        cases panicked

end Settings

namespace Session

variable {surface : Surface}

/-- A request that panicked leaves the session as it was, but for poisoned locks. -/
theorem advance_of_panicked (session : Session RecordingDevice) (free : session.locks.Free)
    {next : Move MemoryStore.Intervention}
    (panicked : panickedRequest (next, (session.advance .recording surface next).1) = true)
    : ∃ locks : Locks,
        locks.Free ∧ (session.advance .recording surface next).2 = { session with locks } := by
  cases next with
  | operate operation =>
      have ending_eq : (session.advance .recording surface (.operate operation)).1.ending
          = (session.operate .recording surface operation).1 := rfl
      have later_eq : (session.advance .recording surface (.operate operation)).2
          = (session.operate .recording surface operation).2.2 := rfl
      simp only [panickedRequest, ending_eq] at panicked
      have attempt (request : operation.isRequest = true) :=
        operate_attempt surface session request free
      rw [later_eq]
      dsimp only at attempt
      generalize (session.operate .recording surface operation).1 = ending at *
      generalize (session.operate .recording surface operation).2.2 = later at *
      cases ending with
      | finished answer => cases panicked
      | blocked => cases panicked
      | panicked =>
          cases attempt panicked with
          | panicked locks free => exact ⟨locks, free, rfl⟩
  | together changes => cases panicked
  | intervene change => cases panicked
  | inspect path => cases panicked

/-- The lock of every change that panicked is poisoned for the rest of the session, by induction on
the moves. -/
theorem runAll_poisoned_of_panicked (moves : List (Move MemoryStore.Intervention))
    (session : Session RecordingDevice) (free : session.locks.Free) {key : String}
    {requested : State} {report : MoveReport}
    (member
      : (.operate (.change key requested), report)
        ∈ moves.zip (session.runAll .recording surface moves).1)
    (panicked : report.ending = .panicked)
    : ∃ slot,
        surface.settings.slot? key = some slot
        ∧ ((session.runAll .recording surface moves).2.locks slot.lock).poisoned = true := by
  induction moves generalizing session with
  | nil => cases member
  | cons next rest ih =>
      rcases List.mem_cons.mp member with made | later
      · obtain ⟨rfl, rfl⟩ := Prod.mk.inj made
        obtain ⟨ending_eq, -, locks_eq⟩ :=
          operate_follows surface session (.change key requested)
        have ended := ending_eq.symm.trans panicked
        rw [surface.run_change] at ended locks_eq
        -- The change of the settings panicked, since replacing its result did not.
        simp only [Run.map, Ending.map_eq_panicked_iff] at ended
        obtain ⟨slot, known, poisoned⟩ := Settings.poisoned_of_panicked free ended
        refine ⟨slot, known, runAll_poisoned rest _ ?_⟩
        exact (congrArg (fun locks : Locks => (locks slot.lock).poisoned) locks_eq).trans poisoned
      · exact ih _ (advance_free next session free) later

/-- Sessions that are alike but for poison make every move alike. -/
theorem advance_alike {session other : Session RecordingDevice} (alike : session.Alike Eq other)
    (next : Move MemoryStore.Intervention)
    : (session.advance .recording surface next).1 = (other.advance .recording surface next).1
      ∧ (session.advance .recording surface next).2.Alike Eq
          (other.advance .recording surface next).2 := by
  have agrees : next.Agrees .full surface := by
    cases next with
    | operate operation => exact fun seen => surface.perform_agrees_full seen operation
    | together changes => exact fun _ _ seen => surface.perform_agrees_full seen _
    | intervene change => trivial
    | inspect path => trivial
  obtain ⟨same, after⟩ := (Bench.Alike.refl .recording).advance agrees alike
  exact ⟨by simpa using same, after⟩

/-- A request that panicked leaves a session like any other that was like it before. -/
theorem alike_of_panicked {session other : Session RecordingDevice} (alike : session.Alike Eq other)
    (free : session.locks.Free) {next : Move MemoryStore.Intervention}
    (panicked : panickedRequest (next, (session.advance .recording surface next).1) = true)
    : (session.advance .recording surface next).2.Alike Eq other := by
  obtain ⟨locks, free', later_eq⟩ := advance_of_panicked session free panicked
  have otherFree : other.locks.Free := fun lock => (alike.held lock).symm.trans (free lock)
  rw [later_eq]
  exact ⟨alike.device, .of_free free' otherFree, alike.seen_eq⟩

/-- A session without some of its panicked requests is the same up to poison. -/
theorem runAll_omits_panicked (device : RecordingDevice)
    {moves : List (Move MemoryStore.Intervention)}
    {rest : List (Move MemoryStore.Intervention × MoveReport)}
    (omitted
      : Omits (panickedRequest · = true)
          (moves.zip ((start device).runAll .recording surface moves).1) rest)
    : let without := (start device).runAll .recording surface (rest.map (·.1))
      without.1 = rest.map (·.2)
      ∧ without.2.device = ((start device).runAll .recording surface moves).2.device := by
  -- No lock is held between two moves, which is what the sessions have in common besides.
  have start_alike : (start device).Alike Eq (start device) := ⟨rfl, .refl _, rfl⟩
  obtain ⟨reports, alike, -⟩ := runAll_omits
    (fun session other : Session RecordingDevice => session.Alike Eq other ∧ session.locks.Free)
    (fun session _ next ⟨alike, free⟩ =>
      have made := advance_alike alike next
      ⟨made.1, made.2, advance_free next session free⟩)
    (fun session _ next ⟨alike, free⟩ panicked =>
      ⟨alike_of_panicked alike free panicked, advance_free next session free⟩)
    ⟨start_alike, Locks.free_fresh⟩ omitted
  exact ⟨reports, alike.device.symm⟩

/-- Poison does not keep a change from its lock, and nothing else comes of it: the change runs as if no
lock had ever been poisoned. -/
theorem change_runs_alike (settings : Settings) (key : String) (requested : State)
    (device : RecordingDevice) {locks : Locks} (free : locks.Free)
    : Run.Alike .full Eq ((settings.change key requested).run respond device locks)
        ((settings.change key requested).run respond device .fresh) := by
  have agrees : (settings.change key requested).Agree .full (settings.change key requested) :=
    Settings.change_agrees (fun _ => trivial)
      (fun t requested => (t.set_lockless requested).agree fun _ _ => trivial) _ key requested
  exact agrees.runHolding_alike (.refl respond) [] rfl (.of_free free Locks.free_fresh)

/-- Whichever requests that panicked are left out of a session, the other moves are reported as they
were, and the session ends with the same device.  The locks of the changes that panicked stay poisoned
for all toggles with the same attribute; and yet every later change gets its lock and does what it
would do if no lock had ever been poisoned. -/
theorem panics_leave_no_trace (config : Config) (own : Option Toggle) (device : RecordingDevice)
    (moves : List (Move MemoryStore.Intervention))
    : let surface : Surface := ⟨.ofConfig config, own⟩
      let course := (start device).runAll .recording surface moves
      (∀ rest,
          Omits (panickedRequest · = true) (moves.zip course.1) rest
          → let without := (start device).runAll .recording surface (rest.map (·.1))
            without.1 = rest.map (·.2) ∧ without.2.device = course.2.device)
      ∧ (∀ key requested report,
          (.operate (.change key requested), report) ∈ moves.zip course.1
          → report.ending = .panicked
          → ∃ slot,
              surface.settings.slot? key = some slot
              ∧ ∀ other ∈ surface.settings.slots,
                  other.toggle.path.SamePlace slot.toggle.path
                  → (course.2.locks other.lock).poisoned = true)
      ∧ ∀ key requested,
          let change := surface.settings.change key requested
          let run := change.run respond course.2.device course.2.locks
          let unpoisoned := change.run respond course.2.device .fresh
          run.ending ≠ .blocked
          ∧ run.ending = unpoisoned.ending
          ∧ run.requests = unpoisoned.requests
          ∧ run.events = unpoisoned.events
          ∧ run.state = unpoisoned.state := by
  intro surface course
  have free : course.2.locks.Free := runAll_free moves (start device) Locks.free_fresh
  refine ⟨fun rest omitted => runAll_omits_panicked device omitted,
    fun key requested report member panicked => ?_, fun key requested => ?_⟩
  · obtain ⟨slot, known, poisoned⟩ :=
      runAll_poisoned_of_panicked moves (start device) Locks.free_fresh member panicked
    refine ⟨slot, known, fun other hother same => ?_⟩
    -- Toggles with the same attribute share the very lock.
    have lock_eq : other.lock = slot.lock :=
      (Settings.lock_eq_iff hother (Settings.slot?_eq_some known).1).mpr same
    rwa [lock_eq]
  · have alike := change_runs_alike surface.settings key requested course.2.device free
    refine ⟨Settings.change_not_blocked _ key requested course.2.device free, alike.ending_eq,
      alike.requests_eq, ?_, alike.related⟩
    simpa using alike.seen_eq

/-- Two switches of a charger share an attribute.  While writes panic neither can be set; afterwards
the second one is set through the lock that the first one left poisoned, as if nobody had tried. -/
theorem charger_panics_leave_no_trace
    : let moves : List (Move MemoryStore.Intervention) :=
        [.intervene (.panicWrites true), .operate (.change "fast" .enabled),
          .operate (.set (.keyed "light") .enabled), .intervene (.panicWrites false),
          .operate (.change "turbo" .enabled), .operate .snapshot]
      let surface : Surface := ⟨.ofConfig .charger, none⟩
      let course := (start ⟨.charger, .fresh false⟩).runAll .recording surface moves
      let rest := (moves.zip course.1).filter fun made => !panickedRequest made
      let without := (start ⟨.charger, .fresh false⟩).runAll .recording surface (rest.map (·.1))
      rest.length = 4
      ∧ (course.2.locks 0).poisoned = true
      ∧ without.2.device.store.contents? ⟨"/sys/charge/mode"⟩ = some "2\n" := by
  intro moves surface course rest without
  obtain ⟨traceless, -, -⟩ := panics_leave_no_trace .charger none ⟨.charger, .fresh false⟩ moves
  have omitted : Omits (panickedRequest · = true) (moves.zip course.1) rest := omits_filter _ _
  refine ⟨by decide +kernel, by decide +kernel, ?_⟩
  rw [(traceless rest omitted).2]
  decide +kernel

end Session

end ModeSwitch
