import ModeSwitch.Proofs.Interleaving.Exclusion
import ModeSwitch.Proofs.Toggle.Protocol

/-! Transactions on a recording device.

A transaction holds one lock while it looks whether attributes are present, writes once, and settles
the write.  It takes effect with its write: before it nothing has changed, and after it the transaction
reads only the place that it wrote and addresses the service about one id only.
-/

namespace ModeSwitch

open Procedure RecordingDevice Toggle

variable {α β : Type} {path : AttrPath} {id? : Option UInt32}

/-- A procedure that looks whether attributes are present, writes to a path and settles the write. -/
def Procedure.Commits (path : AttrPath) (id? : Option UInt32) : Procedure α → Prop
  | .ask (.probe _) next => ∀ reply, (next reply).Commits path id?
  | .ask (.write target _) next => target = path ∧ ∀ reply, (next reply).Only (Settles path id?)
  | .note _ next => next.Commits path id?
  | _ => False

namespace Procedure

/-- A procedure still commits when it goes on with what may follow a write. -/
theorem Commits.bind {p : Procedure α} {f : α → Procedure β} (h : p.Commits path id?)
    (rest : ∀ value, (f value).Only (Settles path id?))
    : (p.bind f).Commits path id? := by
  induction p with
  | done value => exact h.elim
  | ask request next ih =>
      cases request with
      | probe target => exact fun reply => ih reply (h reply)
      | write target line => exact ⟨h.1, fun reply => only_bind (h.2 reply) rest⟩
      | read target => exact h.elim
      | withdraw id => exact h.elim
      | post notification => exact h.elim
  | note event next ih => exact ih h
  | acquire lock next ih => exact h.elim
  | release lock next ih => exact h.elim

theorem Commits.lockless {p : Procedure α} (h : p.Commits path id?) : p.Lockless := by
  induction p with
  | done value => trivial
  | ask request next ih =>
      refine ⟨trivial, fun reply => ?_⟩
      cases request with
      | probe target => exact ih reply (h reply)
      | write target line => exact (h.2 reply).lockless
      | read target => exact h.elim
      | withdraw id => exact h.elim
      | post notification => exact h.elim
  | note event next ih => exact ih h
  | acquire lock next ih => exact h.elim
  | release lock next ih => exact h.elim

end Procedure

/-- A procedure that holds a lock and commits. -/
structure Transaction (α : Type) where
  lock : Nat
  path : AttrPath
  id? : Option UInt32
  body : Procedure α
  commits : body.Commits path id?

/-- Transactions with different locks have nothing in common. -/
def Transaction.Apart (first second : Transaction α) : Prop :=
  first.lock ≠ second.lock
  → ¬ first.path.SamePlace second.path
    ∧ ∀ id, first.id? = some id → second.id? ≠ some id

/-- A procedure that is answered at once, or a transaction. -/
inductive Plan (α : Type) where
  | answered (value : α)
  | transaction (t : Transaction α)

def Plan.procedure : Plan α → Procedure α
  | .answered value => .done value
  | .transaction t => holding t.lock t.body

namespace RecordingDevice

/-- A request that may follow a write is answered, and the device receives its call. -/
theorem respond_settles {request : Request} (h : Settles path id? request)
    (device : RecordingDevice)
    : ∃ reply,
        respond request device = ⟨some reply, [], device.receiving request.call?.toList⟩ := by
  cases request with
  | read target => exact ⟨device.store.readAt target, by simp [Request.call?]⟩
  | withdraw id => exact ⟨_, respond_withdraw device id⟩
  | post notification => exact ⟨_, respond_post device notification⟩
  | probe target => exact h.elim
  | write target line => exact h.elim

/-- What follows a write leaves the device with the calls that it made. -/
theorem settles_state {p : Procedure α} (h : p.Only (Settles path id?)) (held : List Nat)
    (device : RecordingDevice) (locks : Locks)
    : (p.runHolding respond held device locks).state
      = device.receiving (callsOf (p.runHolding respond held device locks).requests) := by
  induction p generalizing device with
  | done value => exact (receiving_nil device).symm
  | ask request next ih =>
      obtain ⟨reply, reaction⟩ := respond_settles h.1 device
      simp only [runHolding, reaction, ih reply (h.2 reply), callsOf_cons, receiving_receiving]
  | note event next ih => exact ih h device
  | acquire lock next ih => exact h.elim
  | release lock next ih => exact h.elim

/-- Two devices on which what follows a write cannot be told apart: a read of the written place finds
the same, and the service answers alike. -/
structure Alike (path : AttrPath) (first second : RecordingDevice) : Prop where
  reads : first.store.readAt path = second.store.readAt path
  answers : first.answer = second.answer

theorem alike_receiving (device : RecordingDevice) (calls : List NotifierCall)
    : (device.receiving calls).Alike path device :=
  ⟨rfl, rfl⟩

/-- What follows a write ends alike and makes the same calls on devices that cannot be told apart. -/
theorem Alike.settles_eq {p : Procedure α} (h : p.Only (Settles path id?))
    {first second : RecordingDevice} (alike : first.Alike path second)
    : (p.run respond first .fresh).ending = (p.run respond second .fresh).ending
      ∧ (p.run respond first .fresh).requests = (p.run respond second .fresh).requests := by
  have agree : ∀ request, Settles path id? request → ∀ s t, Alike path s t →
      (respond request s).reply = (respond request t).reply
      ∧ Alike path (respond request s).state (respond request t).state := by
    intro request settles s t alike
    cases request with
    | read target =>
        obtain rfl : target = path := settles
        exact ⟨congrArg some alike.reads, alike⟩
    | withdraw id => exact ⟨congrArg some alike.answers, alike.reads, alike.answers⟩
    | post notification => exact ⟨congrArg some alike.answers, alike.reads, alike.answers⟩
    | probe target => exact settles.elim
    | write target line => exact settles.elim
  obtain ⟨ending_eq, requests_eq, -⟩ :=
    h.runHolding_related agree [] [] .fresh .fresh alike
  exact ⟨ending_eq, requests_eq⟩

end RecordingDevice

end ModeSwitch
