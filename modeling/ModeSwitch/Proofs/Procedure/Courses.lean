import ModeSwitch.Proofs.Procedure.Holding

/-! The course of a run on any device.

A device is only known by its replies.  As long as it answers, a run can be followed from reply to
reply: which value it comes to, what it asks, and which verdicts it notes, where a verdict is an event
that tells how a request of a state came out.
-/

namespace ModeSwitch

/-- Does an event tell how a request of a state came out?  Errors do, and the warnings that the state
was not reached. -/
def Event.isVerdict : Event → Bool
  | .rejected .. | .stayed .. => true
  | event => event.level = .error

def verdictsOf (events : List Event) : List Event :=
  events.filter Event.isVerdict

theorem verdictsOf_append (first second : List Event)
    : verdictsOf (first ++ second) = verdictsOf first ++ verdictsOf second :=
  List.filter_append ..

namespace Responder

variable {σ : Type}

def Answers (respond : Responder σ) : Prop :=
  ∀ request state, (respond request state).reply.isSome = true

/-- A device that passes no verdict itself. -/
def Discreet (respond : Responder σ) : Prop :=
  ∀ request state, verdictsOf (respond request state).events = []

/-- A device that answers has a reply to every request. -/
theorem Answers.exists_reply {respond : Responder σ} (answers : respond.Answers) (request : Request)
    (state : σ)
    : ∃ reply, (respond request state).reply = some reply :=
  Option.isSome_iff_exists.mp (answers request state)

end Responder

namespace Run

variable {σ α β : Type}

/-- The course of a finished run: the value at its end, what was asked, the verdicts if the device
itself passes none, and what is left. -/
structure Course (respond : Responder σ) (run : Run σ α) (value : α) (requests : List Request)
    (verdicts : List Event) (state : σ) (locks : Locks) : Prop where
  ending_eq : run.ending = .finished value
  requests_eq : run.requests = requests
  verdicts_eq : respond.Discreet → verdictsOf run.events = verdicts
  state_eq : run.state = state
  locks_eq : run.locks = locks

/-- A finished run and then another one take the course of both. -/
theorem Course.andThen {respond : Responder σ} {run : Run σ α}
    {next : α → σ → Locks → Run σ β} {value : α} {final : β} {requests more : List Request}
    {verdicts later : List Event} {state state' : σ} {locks locks' : Locks}
    (first : run.Course respond value requests verdicts state locks)
    (rest : (next value state locks).Course respond final more later state' locks')
    : (run.andThen next).Course respond final (requests ++ more) (verdicts ++ later) state'
        locks' := by
  obtain ⟨ending_eq, rfl, verdicts_eq, rfl, rfl⟩ := first
  simp only [Run.andThen, ending_eq]
  refine ⟨rest.ending_eq, ?_, fun discreet => ?_, rest.state_eq, rest.locks_eq⟩
  · rw [rest.requests_eq]
  · rw [verdictsOf_append, verdicts_eq discreet, rest.verdicts_eq discreet]

end Run

namespace Procedure

variable {σ α β : Type} {respond : Responder σ} {held : List Nat} {state final : σ}
  {locks final_locks : Locks} {value : α} {requests : List Request} {verdicts : List Event}

theorem course_done (value : α)
    : ((done value).runHolding respond held state locks).Course respond value [] [] state locks :=
  ⟨rfl, rfl, fun _ => rfl, rfl, rfl⟩

theorem course_note {next : Procedure α} (event : Event)
    (rest
      : (next.runHolding respond held state locks).Course respond value requests verdicts final
          final_locks)
    : ((note event next).runHolding respond held state locks).Course respond value requests
        (verdictsOf [event] ++ verdicts) final final_locks := by
  refine ⟨rest.ending_eq, rest.requests_eq, fun discreet => ?_, rest.state_eq, rest.locks_eq⟩
  rw [← rest.verdicts_eq discreet, ← verdictsOf_append]
  rfl

/-- A run goes on with the reply to its request, from the state that the device is in then. -/
theorem course_ask {request : Request} {next : request.Reply → Procedure α} {reply : request.Reply}
    (answered : (respond request state).reply = some reply)
    (rest
      : ((next reply).runHolding respond held (respond request state).state locks).Course respond
          value requests verdicts final final_locks)
    : ((ask request next).runHolding respond held state locks).Course respond value
        (request :: requests) verdicts final final_locks := by
  simp only [runHolding, answered]
  refine ⟨rest.ending_eq, ?_, fun discreet => ?_, rest.state_eq, rest.locks_eq⟩
  · rw [rest.requests_eq]
  · rw [verdictsOf_append, discreet request state, rest.verdicts_eq discreet, List.nil_append]

/-- Two procedures one after another take the course of the first and then that of the second. -/
theorem course_bind {p : Procedure α} {f : α → Procedure β} (lockless : p.Lockless) {last : β}
    {more : List Request} {later : List Event} {middle : σ}
    (first
      : (p.runHolding respond held state locks).Course respond value requests verdicts middle locks)
    (rest
      : ((f value).runHolding respond held middle locks).Course respond last more later final
          final_locks)
    : ((p.bind f).runHolding respond held state locks).Course respond last (requests ++ more)
        (verdicts ++ later) final final_locks := by
  rw [lockless.runHolding_bind]
  exact first.andThen rest

/-- What is done with a free lock in hand, and then without it. -/
theorem course_holding {body : Procedure α} {f : α → Procedure β} (lockless : body.Lockless)
    {lock : Nat} (free : (locks lock).held = false) {last : β} {more : List Request}
    {later : List Event} {middle : σ}
    (inside
      : (body.runHolding respond [lock] state (locks.take lock)).Course respond value requests
          verdicts middle (locks.take lock))
    (rest
      : ((f value).runHolding respond [] middle locks).Course respond last more later final
          final_locks)
    : (((holding lock body).bind f).run respond state locks).Course respond last (requests ++ more)
        (verdicts ++ later) final final_locks := by
  have returned
      : ((Procedure.release lock (f value)).runHolding respond [lock] middle
          (locks.take lock)).Course respond last more later final final_locks := by
    simpa [runHolding, Locks.giveBack_take free] using rest
  have through := course_bind (f := fun value => .release lock (f value)) lockless inside returned
  have same : (releasing lock body).bind f = body.bind fun value => .release lock (f value) :=
    bind_assoc _ _ _
  simpa [holding_eq, run, bind, runHolding, free, same] using through

end Procedure

end ModeSwitch
