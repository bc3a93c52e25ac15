import ModeSwitch.Proofs.Session.Observations

/-! What every move of a session keeps.

No lock stays held and no poison is ever taken back, whatever is done.  Which attributes there are is
up to the outside alone: nothing that the program does adds or removes one.
-/

namespace ModeSwitch

open Procedure RecordingDevice

namespace Session

section Induction

variable {δ ι : Type} {bench : Bench δ ι} {surface : Surface} (Kept : Session δ → Prop)
  (operates
    : ∀ session operation,
        Kept session → Kept (session.operate bench surface operation).2.2)
include operates

/-- What every operation keeps, changes made at the same time keep. -/
theorem changeAll_invariant (changes : List (String × State)) (session : Session δ)
    (start : Kept session)
    : Kept (session.changeAll bench surface changes).2.2 := by
  induction changes generalizing session with
  | nil => exact start
  | cons change rest ih => exact ih _ (operates session (.change change.1 change.2) start)

/-- What every operation keeps, a move keeps, unless something is done from outside that does not
keep it. -/
theorem advance_invariant {next : Move ι}
    (intervenes
      : ∀ change,
          next = .intervene change
          → ∀ session : Session δ,
              Kept session
              → Kept { session with device := bench.intervene session.device change })
    (session : Session δ) (start : Kept session)
    : Kept (session.advance bench surface next).2 := by
  cases next with
  | operate operation => exact operates session operation start
  | together changes => exact changeAll_invariant Kept operates changes session start
  | intervene change => exact intervenes change rfl session start
  | inspect path => exact start

/-- What every operation keeps and nothing done from outside breaks, a session keeps, by induction
on its moves. -/
theorem runAll_invariant
    (intervenes
      : ∀ (session : Session δ) change,
          Kept session → Kept { session with device := bench.intervene session.device change })
    (moves : List (Move ι)) (session : Session δ) (start : Kept session)
    : Kept (session.runAll bench surface moves).2 := by
  induction moves generalizing session with
  | nil => exact start
  | cons next rest ih =>
      exact ih _ (advance_invariant Kept operates (fun change _ s => intervenes s change) session
        start)

end Induction

end Session

section Locks

/-- Every operation but a change leaves the locks alone. -/
theorem Surface.perform_lockless {surface : Surface} {seen : Snapshot} {operation : Operation}
    (h : ∀ key requested, operation ≠ .change key requested)
    : (surface.perform seen operation).Lockless := by
  have silent (h : operation.Silent) : (surface.perform seen operation).Lockless :=
    (perform_silent h).lockless
  cases operation with
  | change key requested => exact (h key requested rfl).elim
  | post notification => exact ⟨trivial, fun _ => trivial⟩
  | withdraw id => exact ⟨trivial, fun _ => trivial⟩
  | set subject requested =>
      refine only_bind (withToggle_only (fun t => ?_) subject) fun _ => trivial
      exact only_bind (t.set_lockless requested) fun _ => trivial
  | _ => exact silent trivial

/-- A run takes no poison back, by induction on the procedure. -/
theorem Procedure.runHolding_poisoned {σ α : Type} (respond : Responder σ) (p : Procedure α)
    (held : List Nat) (state : σ) {locks : Locks} {lock : Nat}
    (before : (locks lock).poisoned = true)
    : ((p.runHolding respond held state locks).locks lock).poisoned = true := by
  have set {locks : Locks} (n : Nat) (held : Bool) (poisoned : Bool)
      (same : n = lock → poisoned = true) (before : (locks lock).poisoned = true)
      : ((locks.set n ⟨held, poisoned⟩) lock).poisoned = true := by
    by_cases h : lock = n
    · simpa [Locks.set, h] using same h.symm
    · simpa [Locks.set, h] using before
  induction p generalizing held state locks with
  | done value => exact before
  | ask request next ih =>
      simp only [runHolding]
      cases (respond request state).reply with
      | some reply => exact ih reply held _ before
      | none =>
          -- A panic poisons what is held, one lock after another.
          dsimp only
          induction held generalizing locks with
          | nil => exact before
          | cons n held ihHeld => exact ihHeld (set n false true (fun _ => rfl) before)
  | note event next ih => exact ih held state before
  | acquire n next ih =>
      simp only [runHolding]
      split
      · exact before
      · exact ih _ _ state (set n true _ (fun h => h ▸ before) before)
  | release n next ih => exact ih _ state (set n false _ (fun h => h ▸ before) before)

end Locks

namespace Session

variable {surface : Surface}

/-- An operation that finds no lock held leaves none held: a change returns its lock, and nothing
else takes one. -/
theorem operate_free (session : Session RecordingDevice) (operation : Operation)
    (free : session.locks.Free)
    : (session.operate .recording surface operation).2.2.locks.Free := by
  obtain ⟨-, -, locks_eq⟩ := operate_follows surface session operation
  rw [locks_eq]
  by_cases change : ∃ key requested, operation = .change key requested
  · obtain ⟨key, requested, rfl⟩ := change
    rw [surface.run_change]
    cases known : surface.settings.slot? key with
    | none =>
        rw [Settings.change_of_unknown known]
        exact free
    | some slot =>
        rw [Settings.change_of_known known]
        exact (run_holding respond (slot.changing_lockless key requested) free slot.lock
          session.device).2.2
  · have lockless : (surface.perform session.seen operation).Lockless :=
      Surface.perform_lockless fun key requested h => change ⟨key, requested, h⟩
    rcases lockless.finished_or_panicked respond [] session.device session.locks with
      ⟨value, -, same⟩ | ⟨-, same⟩
    · exact same.symm ▸ free
    · exact same.symm ▸ free

theorem advance_free (next : Move MemoryStore.Intervention) (session : Session RecordingDevice)
    (free : session.locks.Free)
    : (session.advance .recording surface next).2.locks.Free :=
  advance_invariant (·.locks.Free) operate_free (fun _ _ _ kept => kept) session free

/-- After every sequence of moves no lock is held. -/
theorem runAll_free (moves : List (Move MemoryStore.Intervention))
    (session : Session RecordingDevice) (free : session.locks.Free)
    : (session.runAll .recording surface moves).2.locks.Free :=
  runAll_invariant (·.locks.Free) operate_free (fun _ _ kept => kept) moves session free

/-- A lock once poisoned stays poisoned during a session. -/
theorem runAll_poisoned (moves : List (Move MemoryStore.Intervention))
    (session : Session RecordingDevice) {lock : Nat}
    (before : (session.locks lock).poisoned = true)
    : ((session.runAll .recording surface moves).2.locks lock).poisoned = true := by
  refine runAll_invariant (fun later => (later.locks lock).poisoned = true)
    (fun session operation kept => ?_) (fun _ _ kept => kept) moves session before
  obtain ⟨-, -, locks_eq⟩ := operate_follows surface session operation
  rw [locks_eq]
  exact runHolding_poisoned respond _ [] session.device kept

end Session

/-- No request adds or removes an attribute. -/
theorem RecordingDevice.respond_holds (request : Request) (device : RecordingDevice)
    (path : AttrPath)
    : (respond request device).state.store.holds path = device.store.holds path := by
  cases request with
  | probe other => rfl
  | read other => rfl
  | withdraw id => rfl
  | post notification => rfl
  | write other line =>
      rw [respond_write]
      rcases device.store.write_state other line with same | accepted
      · exact congrArg (MemoryStore.holds · path) same
      · exact (congrArg (MemoryStore.holds · path) accepted).trans
          (device.store.holds_accepting other path line)

/-- Is something done from outside that may add or remove an attribute? -/
def Move.Places : Move MemoryStore.Intervention → Prop
  | .intervene (.put ..) | .intervene (.remove _) => True
  | _ => False

namespace Session

variable {surface : Surface}

/-- A move adds or removes an attribute only if it is done from outside for this very purpose. -/
theorem advance_holds {next : Move MemoryStore.Intervention} (h : ¬ next.Places)
    (session : Session RecordingDevice) (path : AttrPath)
    : (session.advance .recording surface next).2.device.store.holds path
      = session.device.store.holds path := by
  refine advance_invariant (fun later =>
    later.device.store.holds path = session.device.store.holds path) ?_ ?_ session rfl
  · intro later operation kept
    obtain ⟨-, device_eq, -⟩ := operate_follows surface later operation
    rw [device_eq]
    refine runHolding_invariant _ (fun device : RecordingDevice =>
      device.store.holds path = session.device.store.holds path) ?_ [] _ _ kept
    intro request device kept
    exact (respond_holds request device path).trans kept
  · rintro change rfl later kept
    cases change with
    | put other contents => exact (h trivial).elim
    | remove other => exact (h trivial).elim
    | override other value => cases value <;> exact kept
    | _ => exact kept

end Session

end ModeSwitch
