import ModeSwitch.Proofs.Notification.Tray
import ModeSwitch.Proofs.Session.Operations
import ModeSwitch.Proofs.Settings.Slots
import ModeSwitch.Session.Benches

/-! What a session observes, and what the notification service receives for it.

The moves of a session and their reports tell which states were observed for which keys.  Nothing
else reaches the service than the notices of these states, in their order.
-/

namespace ModeSwitch

open RecordingDevice

namespace Move

variable {ι : Type}

/-- Does a move address the service on behalf of described toggles at most? -/
def Indirect : Move ι → Prop
  | .operate operation => operation.Indirect
  | .together _ | .intervene _ | .inspect _ => True

def observations : Move ι → Ending Answer → List (String × State)
  | .operate operation, ending => (operation.observation? ending).toList
  | .together changes, .finished (.together endings) =>
      (changes.zip endings).filterMap fun made =>
        (Operation.change made.1.1 made.1.2).observation? made.2
  | _, _ => []

end Move

/-- The states observed during some moves, with the keys of their toggles, by the reports. -/
def observed {ι : Type} (moves : List (Move ι)) (reports : List MoveReport)
    : List (String × State) :=
  (moves.zip reports).flatMap fun made => made.1.observations made.2.ending

/-- The state observed last for a key. -/
def lastObserved? (observations : List (String × State)) (key : String) : Option State :=
  (observations.reverse.find? (·.1 = key)).map (·.2)

abbrev Bench.recording : Bench RecordingDevice MemoryStore.Intervention :=
  .memory Recorder.service (·.calls)

namespace Session

variable {surface : Surface} {session middle later : Session RecordingDevice}

/-- Between two points of a session the recorder received the notices of what was observed, and no
lock stayed held. -/
structure Tracks (surface : Surface) (session later : Session RecordingDevice)
    (observations : List (String × State)) : Prop where
  calls_eq
    : later.device.notifier.calls
      = session.device.notifier.calls ++ surface.settings.noticesOf observations
  free : later.locks.Free

/-- What was observed in two stretches of a session was observed in both together. -/
theorem Tracks.trans {first second : List (String × State)}
    (hfirst : Tracks surface session middle first) (hsecond : Tracks surface middle later second)
    : Tracks surface session later (first ++ second) := by
  refine ⟨?_, hsecond.free⟩
  rw [hsecond.calls_eq, hfirst.calls_eq, List.append_assoc]
  simp only [Settings.noticesOf, List.flatMap_append]

theorem Tracks.nil (free : session.locks.Free) : Tracks surface session session [] :=
  ⟨(List.append_nil _).symm, free⟩

variable (surface session)

/-- An operation ends and leaves what the run of its procedure does. -/
theorem operate_follows (operation : Operation)
    : let run := (surface.perform session.seen operation).run respond session.device session.locks
      let made := session.operate .recording surface operation
      made.1 = run.ending.map (·.1)
      ∧ made.2.2.device = run.state
      ∧ made.2.2.locks = run.locks := by
  intro run made
  have course : session.run .recording (surface.perform session.seen operation) = run := rfl
  simp only [made, operate, course]
  split
  · rename_i answer seen ended
    exact ⟨by rw [ended]; rfl, rfl, rfl⟩
  · rename_i ended
    exact ⟨by rw [ended]; rfl, rfl, rfl⟩
  · rename_i ended
    exact ⟨by rw [ended]; rfl, rfl, rfl⟩

/-- An operation is tracked, since it sends the notices of what it observed. -/
theorem operate_tracks (operation : Operation) (h : operation.Indirect)
    (free : session.locks.Free)
    : let made := session.operate .recording surface operation
      Tracks surface session made.2.2 (operation.observation? made.1).toList := by
  intro made
  obtain ⟨ending_eq, device_eq, locks_eq⟩ := operate_follows surface session operation
  have sends := surface.perform_sends session.seen session.device h free
  refine ⟨?_, ?_⟩
  · rw [device_eq, ending_eq]
    exact congrArg Recorder.calls sends.notifier_eq
  · rw [locks_eq]
    exact sends.free

/-- Changes made at the same time are tracked one after another, by induction on them. -/
theorem changeAll_tracks (changes : List (String × State)) (free : session.locks.Free)
    : let made := session.changeAll .recording surface changes
      Tracks surface session made.2.2
        ((Move.together changes : Move MemoryStore.Intervention).observations
          (.finished (.together made.1))) := by
  induction changes generalizing session with
  | nil => exact .nil free
  | cons change rest ih =>
      intro made
      have first := operate_tracks surface session (.change change.1 change.2) trivial free
      have both := first.trans (ih _ first.free)
      -- The observations of all changes are those of the first one and of the others.
      have parts : ∀ (ending : Ending Answer) (endings : List (Ending Answer)),
          (Move.together (change :: rest) : Move MemoryStore.Intervention).observations
            (.finished (.together (ending :: endings)))
          = ((Operation.change change.1 change.2).observation? ending).toList
            ++ (Move.together rest : Move MemoryStore.Intervention).observations
                (.finished (.together endings)) := by
        intro ending endings
        cases h : (Operation.change change.1 change.2).observation? ending <;>
          simp [Move.observations, h]
      rw [← parts] at both
      exact both

/-- A move is tracked: only operations on described toggles reach the service. -/
theorem move_tracks (next : Move MemoryStore.Intervention) (h : next.Indirect)
    (free : session.locks.Free)
    : let made := session.move .recording surface next
      Tracks surface session made.2.2 (next.observations made.1) := by
  cases next with
  | operate operation => exact operate_tracks surface session operation h free
  | together changes => exact changeAll_tracks surface session changes free
  | intervene intervention => exact ⟨(List.append_nil _).symm, free⟩
  | inspect path => exact .nil free

/-- A session is tracked from its start, by induction on its moves. -/
theorem runAll_tracks (moves : List (Move MemoryStore.Intervention))
    (indirect : ∀ move ∈ moves, move.Indirect) (free : session.locks.Free)
    : let course := session.runAll .recording surface moves
      Tracks surface session course.2 (observed moves course.1) := by
  induction moves generalizing session with
  | nil => exact .nil free
  | cons next rest ih =>
      intro course
      have first := move_tracks surface session next (indirect next (by simp)) free
      have later := ih (session.advance .recording surface next).2
        (fun move member => indirect move (by simp [member])) first.free
      exact first.trans later

end Session

end ModeSwitch
