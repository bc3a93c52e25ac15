import ModeSwitch.Proofs.Procedure.Requests

/-! Procedures that hold one lock, and procedures that run in turn.

Whoever finds a lock free takes it and returns it; a panic poisons it but returns it too.  So when
procedures run one after another, each of them finds every lock free.
-/

namespace ModeSwitch

namespace Locks

variable {locks : Locks} {lock : Nat}

def Free (locks : Locks) : Prop :=
  ∀ lock, (locks lock).held = false

theorem free_fresh : fresh.Free :=
  fun _ => rfl

@[simp]
theorem take_self : (locks.take lock) lock = { locks lock with held := true } := by
  simp [take, set]

theorem take_of_ne {other : Nat} (h : other ≠ lock) : (locks.take lock) other = locks other := by
  simp [take, set, h]

/-- Taking a free lock and returning it leaves no trace. -/
theorem giveBack_take (free : (locks lock).held = false)
    : (locks.take lock).giveBack lock = locks := by
  funext other
  by_cases h : other = lock
  · subst h
    simp [giveBack, set, ← free]
  · simp [giveBack, take, set, h]

/-- A panic returns the lock that it poisons. -/
theorem Free.poison_take (free : locks.Free) (lock : Nat)
    : ((locks.take lock).poison lock).Free := by
  intro other
  by_cases h : other = lock
  · simp [Locks.poison, set, h]
  · simpa [Locks.poison, take, set, h] using free other

end Locks

namespace Procedure

variable {σ α β : Type} {respond : Responder σ} {body : Procedure α} {lock : Nat}
  {state state' : σ} {locks : Locks}

/-- The procedure touches no lock; it may ask anything. -/
abbrev Lockless (p : Procedure α) : Prop :=
  p.Only fun _ => True

/-- A procedure that makes requests of a kind only takes no lock. -/
theorem Only.lockless {allowed : Request → Prop} {p : Procedure α} (h : p.Only allowed)
    : p.Lockless :=
  h.mono fun _ _ => trivial

/-- Returns a lock at the end of a procedure. -/
def releasing (lock : Nat) (body : Procedure α) : Procedure α :=
  body.bind fun value => .release lock (.done value)

/-- The body of a locked procedure begins once the lock is taken, and is followed by its return. -/
theorem holding_eq (lock : Nat) (body : Procedure α)
    : holding lock body = .acquire lock fun _ => releasing lock body :=
  rfl

/-- Holding a free lock changes neither how a finished run ends nor any lock. -/
theorem holding_leaves {value : α} (lockless : body.Lockless) (free : (locks lock).held = false)
    (inside
      : (body.runHolding respond [lock] state (locks.take lock)).Leaves (.finished value) state'
          (locks.take lock))
    : ((holding lock body).run respond state locks).Leaves (.finished value) state' locks := by
  have returned : ((releasing lock body).runHolding respond [lock] state (locks.take lock)).Leaves
      (.finished value) state' ((locks.take lock).giveBack lock) := by
    rw [releasing, Only.runHolding_bind lockless]
    exact inside.andThen ⟨rfl, rfl, rfl⟩
  rw [Locks.giveBack_take free] at returned
  simpa [holding_eq, run, runHolding, free] using returned

/-- A panic while a free lock is held poisons it. -/
theorem holding_leaves_panicked (lockless : body.Lockless) (free : (locks lock).held = false)
    (inside
      : (body.runHolding respond [lock] state (locks.take lock)).Leaves .panicked state'
          ((locks.take lock).poison lock))
    : ((holding lock body).run respond state locks).Leaves .panicked state'
        ((locks.take lock).poison lock) := by
  have returned : ((releasing lock body).runHolding respond [lock] state (locks.take lock)).Leaves
      .panicked state' ((locks.take lock).poison lock) := by
    rw [releasing, Only.runHolding_bind lockless]
    exact inside.andThen_panicked
  simpa [holding_eq, run, runHolding, free] using returned

variable (respond) in
/-- A run that holds a free lock ends as the run of its body alone does, and no lock stays held. -/
theorem run_holding (lockless : body.Lockless) (free : locks.Free) (lock : Nat) (state : σ)
    : ((holding lock body).run respond state locks).ending
        = (body.run respond state .fresh).ending
      ∧ ((holding lock body).run respond state locks).state
        = (body.run respond state .fresh).state
      ∧ ((holding lock body).run respond state locks).locks.Free := by
  obtain ⟨ending_eq, -, state_eq⟩ :=
    lockless.runHolding_eq respond [lock] [] (locks.take lock) .fresh state
  -- The body never waits, so it finishes with the lock in hand or poisons it.
  rcases lockless.finished_or_panicked respond [lock] state (locks.take lock) with
    ⟨value, finished, unchanged⟩ | ⟨panicked, poisoned⟩
  · have left := holding_leaves lockless (free lock) ⟨finished, state_eq, unchanged⟩
    refine ⟨left.ending_eq.trans (finished.symm.trans ending_eq), left.state_eq, ?_⟩
    rw [left.locks_eq]
    exact free
  · have left := holding_leaves_panicked lockless (free lock) ⟨panicked, state_eq, poisoned⟩
    refine ⟨left.ending_eq.trans (panicked.symm.trans ending_eq), left.state_eq, ?_⟩
    rw [left.locks_eq]
    exact free.poison_take lock

end Procedure

/-- The course of several runs in turn: how each ends, and what the last one leaves. -/
structure Succession (σ α : Type) where
  endings : List (Ending α)
  state : σ
  locks : Locks

namespace Procedure

variable {σ α : Type} {respond : Responder σ}

/-- Runs procedures one after another.  The next one runs however the one before it ended. -/
def inTurn (respond : Responder σ) : List (Procedure α) → σ → Locks → Succession σ α
  | [], state, locks => ⟨[], state, locks⟩
  | p :: rest, state, locks =>
      let run := p.run respond state locks
      let later := inTurn respond rest run.state run.locks
      { later with endings := run.ending :: later.endings }

/-- A procedure in turn is followed by the others, from what it leaves. -/
theorem inTurn_cons {p : Procedure α} {ending : Ending α} {state state' : σ} {locks locks' : Locks}
    (left : (p.run respond state locks).Leaves ending state' locks')
    (rest : List (Procedure α))
    : inTurn respond (p :: rest) state locks
      = let later := inTurn respond rest state' locks'
        { later with endings := ending :: later.endings } := by
  obtain ⟨rfl, rfl, rfl⟩ := left
  rfl

/-- Procedures in turn, and then some more, are all of them in turn. -/
theorem inTurn_append (first rest : List (Procedure α)) (state : σ) (locks : Locks)
    : inTurn respond (first ++ rest) state locks
      = let earlier := inTurn respond first state locks
        let later := inTurn respond rest earlier.state earlier.locks
        { later with endings := earlier.endings ++ later.endings } := by
  induction first generalizing state locks with
  | nil => rfl
  | cons p first ih => simp [inTurn, ih]

end Procedure

end ModeSwitch
