import ModeSwitch.Procedure

/-! What a run leaves behind.

Most statements about a run are about its ending, the state and the locks, and not about its course.
These are found step by step along the procedure, and part by part when procedures follow each other.
-/

namespace ModeSwitch

variable {σ α β : Type}

def Ending.map (f : α → β) : Ending α → Ending β
  | .finished value => .finished (f value)
  | .panicked => .panicked
  | .blocked => .blocked

theorem Ending.map_eq_panicked_iff {f : α → β} {ending : Ending α}
    : ending.map f = .panicked ↔ ending = .panicked := by
  cases ending <;> simp [map]

namespace Run

def map (f : α → β) (run : Run σ α) : Run σ β :=
  ⟨run.ending.map f, run.requests, run.events, run.state, run.locks⟩

/-- A run that goes on, if it finishes, from the state it leaves. -/
def andThen (run : Run σ α) (next : α → σ → Locks → Run σ β) : Run σ β :=
  match run.ending with
  | .finished value =>
      let rest := next value run.state run.locks
      { rest with requests := run.requests ++ rest.requests, events := run.events ++ rest.events }
  | .panicked => ⟨.panicked, run.requests, run.events, run.state, run.locks⟩
  | .blocked => ⟨.blocked, run.requests, run.events, run.state, run.locks⟩

/-- How a run ends, and the state and the locks that it leaves. -/
structure Leaves (run : Run σ α) (ending : Ending α) (state : σ) (locks : Locks) : Prop where
  ending_eq : run.ending = ending
  state_eq : run.state = state
  locks_eq : run.locks = locks

variable {run : Run σ α} {state state' : σ} {locks locks' : Locks}

/-- What a finished run goes on to leave is what the rest leaves. -/
theorem Leaves.andThen {value : α} {next : α → σ → Locks → Run σ β} {ending : Ending β}
    (first : run.Leaves (.finished value) state locks)
    (rest : (next value state locks).Leaves ending state' locks')
    : (run.andThen next).Leaves ending state' locks' := by
  obtain ⟨rfl, rfl, rfl⟩ := rest
  obtain ⟨ending_eq, rfl, rfl⟩ := first
  simp only [Run.andThen, ending_eq]
  exact ⟨rfl, rfl, rfl⟩

/-- A run that panicked does not go on. -/
theorem Leaves.andThen_panicked {next : α → σ → Locks → Run σ β}
    (first : run.Leaves .panicked state locks)
    : (run.andThen next).Leaves .panicked state locks := by
  obtain ⟨ending_eq, rfl, rfl⟩ := first
  simp only [Run.andThen, ending_eq]
  exact ⟨rfl, rfl, rfl⟩

/-- Replacing the value at the end of a run replaces it in what the run leaves. -/
theorem Leaves.map {ending : Ending α} (h : run.Leaves ending state locks) (f : α → β)
    : (run.map f).Leaves (ending.map f) state locks :=
  ⟨congrArg (Ending.map f) h.ending_eq, h.state_eq, h.locks_eq⟩

end Run

namespace Procedure

@[simp]
theorem pure_eq_done (value : α) : (pure value : Procedure α) = .done value :=
  rfl

@[simp]
theorem bind_eq (p : Procedure α) (f : α → Procedure β) : (p >>= f) = p.bind f :=
  rfl

/-- Going on twice is going on with both, by induction on the first procedure. -/
theorem bind_assoc {γ : Type} (p : Procedure α) (f : α → Procedure β) (g : β → Procedure γ)
    : (p.bind f).bind g = p.bind fun value => (f value).bind g := by
  induction p with
  | done value => rfl
  | ask request next ih => exact congrArg (ask request) (funext ih)
  | note event next ih => exact congrArg (note event) ih
  | acquire lock next ih => exact congrArg (acquire lock) (funext ih)
  | release lock next ih => exact congrArg (release lock) ih

variable {respond : Responder σ} {held : List Nat} {state state' final : σ} {locks final_locks : Locks}

theorem leaves_done (value : α)
    : ((done value).runHolding respond held state locks).Leaves (.finished value) state locks :=
  ⟨rfl, rfl, rfl⟩

/-- A run goes on with the reply to its request. -/
theorem leaves_ask {request : Request} {next : request.Reply → Procedure α} {ending : Ending α}
    {reply : request.Reply} {events : List Event}
    (reaction : respond request state = ⟨some reply, events, state'⟩)
    (rest : ((next reply).runHolding respond held state' locks).Leaves ending final final_locks)
    : ((ask request next).runHolding respond held state locks).Leaves ending final final_locks := by
  simp only [runHolding, reaction]
  exact ⟨rest.ending_eq, rest.state_eq, rest.locks_eq⟩

/-- A request without a reply ends the run, and what is held is poisoned. -/
theorem leaves_ask_panicked {request : Request} {next : request.Reply → Procedure α}
    {events : List Event} (reaction : respond request state = ⟨none, events, state'⟩)
    : ((ask request next).runHolding respond held state locks).Leaves .panicked state'
        (held.foldl .poison locks) := by
  simp only [runHolding, reaction]
  exact ⟨rfl, rfl, rfl⟩

theorem leaves_note {event : Event} {next : Procedure α} {ending : Ending α}
    (rest : (next.runHolding respond held state locks).Leaves ending final final_locks)
    : ((note event next).runHolding respond held state locks).Leaves ending final final_locks :=
  ⟨rest.ending_eq, rest.state_eq, rest.locks_eq⟩

/-- Replacing the value at the end of a procedure replaces it at the end of its runs. -/
theorem runHolding_map (p : Procedure α) (f : α → β) (held : List Nat) (state : σ) (locks : Locks)
    : (p.bind fun value => .done (f value)).runHolding respond held state locks
      = (p.runHolding respond held state locks).map f := by
  induction p generalizing held state locks with
  | done value => rfl
  | ask request next ih =>
      simp only [bind, runHolding]
      cases (respond request state).reply with
      | none => rfl
      | some reply => simp only [ih, Run.map]
  | note event next ih => simp only [bind, runHolding, ih, Run.map]
  | acquire lock next ih =>
      simp only [bind, runHolding]
      split
      · rfl
      · exact ih _ _ _ _
  | release lock next ih => exact ih _ _ _

/-- What every request keeps, a whole run keeps, whatever it notes and locks. -/
theorem runHolding_invariant (p : Procedure α) (Kept : σ → Prop)
    (keeps : ∀ request state, Kept state → Kept (respond request state).state)
    (held : List Nat) (state : σ) (locks : Locks) (start : Kept state)
    : Kept (p.runHolding respond held state locks).state := by
  induction p generalizing held state locks with
  | done value => exact start
  | ask request next ih =>
      have kept := keeps request state start
      simp only [runHolding]
      cases (respond request state).reply with
      | none => exact kept
      | some reply => exact ih reply held _ locks kept
  | note event next ih => exact ih held state locks start
  | acquire lock next ih =>
      simp only [runHolding]
      split
      · exact start
      · exact ih _ _ state _ start
  | release lock next ih => exact ih _ state _ start

end Procedure

end ModeSwitch
