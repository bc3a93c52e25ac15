import ModeSwitch.Proofs.Procedure.Runs

/-! What a procedure may ask, and what its runs therefore cannot do.

A procedure that asks only allowed requests and touches no lock keeps whatever those requests keep,
and it cannot tell apart two devices that answer them alike.
-/

namespace ModeSwitch

/-- The call that a request makes to the notification service, if it makes one. -/
def Request.call? : Request → Option NotifierCall
  | .withdraw id => some (.withdraw id)
  | .post notification => some (.post notification)
  | .probe _ | .read _ | .write .. => none

def callsOf (requests : List Request) : List NotifierCall :=
  requests.filterMap Request.call?

theorem callsOf_cons (request : Request) (requests : List Request)
    : callsOf (request :: requests) = request.call?.toList ++ callsOf requests := by
  cases h : request.call? <;> simp [callsOf, h]

def Request.IsQuery : Request → Prop
  | .probe _ | .read _ => True
  | .write .. | .withdraw _ | .post _ => False

namespace Procedure

variable {σ τ α β : Type}

/-- Every request on every course of a procedure is allowed, and no course touches a lock. -/
def Only (allowed : Request → Prop) : Procedure α → Prop
  | .done _ => True
  | .ask request next => allowed request ∧ ∀ reply, (next reply).Only allowed
  | .note _ next => next.Only allowed
  | .acquire .. | .release .. => False

variable {allowed : Request → Prop}

/-- Going on keeps to the allowed requests if both parts do, by induction on the first. -/
theorem only_bind {p : Procedure α} {f : α → Procedure β}
    (first : p.Only allowed) (rest : ∀ value, (f value).Only allowed)
    : (p.bind f).Only allowed := by
  induction p with
  | done value => exact rest value
  | ask request next ih => exact ⟨first.1, fun reply => ih reply (first.2 reply)⟩
  | note event next ih => exact ih first
  | acquire lock next ih => exact first.elim
  | release lock next ih => exact first.elim

/-- Repeating a procedure for every element keeps to the requests that each round keeps to. -/
theorem only_gather {f : α → Procedure β} (each : ∀ a, (f a).Only allowed) (elements : List α)
    : (gather f elements).Only allowed := by
  induction elements with
  | nil => trivial
  | cons a rest ih => exact only_bind (each a) fun _ => only_bind ih fun _ => trivial

/-- Fewer allowed requests are a stronger promise. -/
theorem Only.mono {wider : Request → Prop} {p : Procedure α} (h : p.Only allowed)
    (implies : ∀ request, allowed request → wider request)
    : p.Only wider := by
  induction p with
  | done value => trivial
  | ask request next ih => exact ⟨implies request h.1, fun reply => ih reply (h.2 reply)⟩
  | note event next ih => exact ih h
  | acquire lock next ih => exact h.elim
  | release lock next ih => exact h.elim

variable {respond : Responder σ} {other : Responder τ}

/-- A run of one procedure after another is the second run after the first, as long as the first
touches no lock: only then is it known what the second one holds. -/
theorem Only.runHolding_bind {p : Procedure α} (h : p.Only allowed) (f : α → Procedure β)
    (held : List Nat) (state : σ) (locks : Locks)
    : (p.bind f).runHolding respond held state locks
      = (p.runHolding respond held state locks).andThen
          fun value state locks => (f value).runHolding respond held state locks := by
  induction p generalizing state locks with
  | done value => rfl
  | ask request next ih =>
      simp only [bind, runHolding]
      cases (respond request state).reply with
      | none => rfl
      | some reply =>
          simp only [ih reply (h.2 reply), Run.andThen]
          split <;> simp
  | note event next ih =>
      simp only [bind, runHolding, ih h, Run.andThen]
      split <;> simp
  | acquire lock next ih => exact h.elim
  | release lock next ih => exact h.elim

/-- What every allowed request keeps, a whole run keeps. -/
theorem Only.state_invariant {p : Procedure α} (h : p.Only allowed) (Kept : σ → Prop)
    (keeps : ∀ request, allowed request → ∀ state, Kept state → Kept (respond request state).state)
    (held : List Nat) (state : σ) (locks : Locks) (start : Kept state)
    : Kept (p.runHolding respond held state locks).state := by
  induction p generalizing state with
  | done value => exact start
  | ask request next ih =>
      have kept := keeps request h.1 state start
      simp only [runHolding]
      cases (respond request state).reply with
      | none => exact kept
      | some reply => exact ih reply (h.2 reply) _ kept
  | note event next ih => exact ih h _ start
  | acquire lock next ih => exact h.elim
  | release lock next ih => exact h.elim

/-- Two devices in related states give one procedure the same ending and the same requests and stay
related, if they answer every allowed request alike and stay related then.  What is held does not
matter. -/
theorem Only.runHolding_related {p : Procedure α} (h : p.Only allowed) {Related : σ → τ → Prop}
    (agree
      : ∀ request,
          allowed request
          → ∀ s t, Related s t
          → (respond request s).reply = (other request t).reply
            ∧ Related (respond request s).state (other request t).state)
    (held held' : List Nat) (locks locks' : Locks) {s : σ} {t : τ} (start : Related s t)
    : (p.runHolding respond held s locks).ending = (p.runHolding other held' t locks').ending
      ∧ (p.runHolding respond held s locks).requests
        = (p.runHolding other held' t locks').requests
      ∧ Related (p.runHolding respond held s locks).state
          (p.runHolding other held' t locks').state := by
  induction p generalizing s t with
  | done value => exact ⟨rfl, rfl, start⟩
  | ask request next ih =>
      obtain ⟨same, related⟩ := agree request h.1 s t start
      simp only [runHolding, ← same]
      cases (respond request s).reply with
      | none => exact ⟨rfl, rfl, related⟩
      | some reply =>
          obtain ⟨ending, requests, final⟩ := ih reply (h.2 reply) related
          exact ⟨ending, by simp only [requests], final⟩
  | note event next ih => exact ih h start
  | acquire lock next ih => exact h.elim
  | release lock next ih => exact h.elim

variable (respond) in
/-- A run without locks does not depend on the locks, nor on what is held. -/
theorem Only.runHolding_eq {p : Procedure α} (h : p.Only allowed) (held held' : List Nat)
    (locks locks' : Locks) (state : σ)
    : (p.runHolding respond held state locks).ending
        = (p.runHolding respond held' state locks').ending
      ∧ (p.runHolding respond held state locks).requests
        = (p.runHolding respond held' state locks').requests
      ∧ (p.runHolding respond held state locks).state
        = (p.runHolding respond held' state locks').state := by
  refine h.runHolding_related ?_ held held' locks locks' rfl
  rintro request - s t rfl
  exact ⟨rfl, rfl⟩

variable (respond) in
/-- Every request of a run is allowed. -/
theorem Only.allowed_of_mem {p : Procedure α} (h : p.Only allowed) (held : List Nat) (state : σ)
    (locks : Locks)
    : ∀ request ∈ (p.runHolding respond held state locks).requests, allowed request := by
  induction p generalizing state with
  | done value => simp [runHolding]
  | ask request next ih =>
      simp only [runHolding]
      cases (respond request state).reply with
      | none => simpa using h.1
      | some reply => simpa using ⟨h.1, ih reply (h.2 reply) _⟩
  | note event next ih => exact ih h _
  | acquire lock next ih => exact h.elim
  | release lock next ih => exact h.elim

variable (respond) in
/-- A run without locks never waits: it finishes with the locks as they were, or a panic poisons
all that it holds. -/
theorem Only.finished_or_panicked {p : Procedure α} (h : p.Only allowed) (held : List Nat)
    (state : σ) (locks : Locks)
    : (∃ value, (p.runHolding respond held state locks).ending = .finished value
        ∧ (p.runHolding respond held state locks).locks = locks)
      ∨ (p.runHolding respond held state locks).ending = .panicked
        ∧ (p.runHolding respond held state locks).locks = held.foldl .poison locks := by
  induction p generalizing state with
  | done value => exact .inl ⟨value, rfl, rfl⟩
  | ask request next ih =>
      simp only [runHolding]
      cases (respond request state).reply with
      | none => exact .inr ⟨rfl, rfl⟩
      | some reply => exact ih reply (h.2 reply) _
  | note event next ih => exact ih h _
  | acquire lock next ih => exact h.elim
  | release lock next ih => exact h.elim

/-- Every course of a procedure that comes to an end comes to a value with a property. -/
def Returns (Holds : α → Prop) : Procedure α → Prop
  | .done value => Holds value
  | .ask _ next => ∀ reply, (next reply).Returns Holds
  | .note _ next => next.Returns Holds
  | .acquire _ next => ∀ poisoned, (next poisoned).Returns Holds
  | .release _ next => next.Returns Holds

theorem returns_something (p : Procedure α) : p.Returns fun _ => True := by
  induction p with
  | done value => trivial
  | ask request next ih => exact ih
  | note event next ih => exact ih
  | acquire lock next ih => exact ih
  | release lock next ih => exact ih

/-- What a procedure returns is settled by how it goes on with what the first part returned. -/
theorem returns_bind {Held : α → Prop} {Holds : β → Prop} {p : Procedure α} {f : α → Procedure β}
    (first : p.Returns Held) (rest : ∀ value, Held value → (f value).Returns Holds)
    : (p.bind f).Returns Holds := by
  induction p with
  | done value => exact rest value first
  | ask request next ih => exact fun reply => ih reply (first reply)
  | note event next ih => exact ih first
  | acquire lock next ih => exact fun poisoned => ih poisoned (first poisoned)
  | release lock next ih => exact ih first

/-- Where every allowed request is answered, a run without locks comes to its end. -/
theorem Only.finishes {Holds : α → Prop} {p : Procedure α} (h : p.Only allowed)
    (returns : p.Returns Holds)
    (answers : ∀ request, allowed request → ∀ state, (respond request state).reply.isSome = true)
    (held : List Nat) (state : σ) (locks : Locks)
    : ∃ value, (p.runHolding respond held state locks).ending = .finished value ∧ Holds value := by
  induction p generalizing state with
  | done value => exact ⟨value, rfl, returns⟩
  | ask request next ih =>
      obtain ⟨reply, answered⟩ := Option.isSome_iff_exists.mp (answers request h.1 state)
      simp only [runHolding, answered]
      exact ih reply (h.2 reply) (returns reply) _
  | note event next ih => exact ih h returns _
  | acquire lock next ih => exact h.elim
  | release lock next ih => exact h.elim

end Procedure

end ModeSwitch
