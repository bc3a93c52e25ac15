import ModeSwitch.Journal

/-! Procedures.

A procedure is a finite conversation with a device: it asks for an attribute or addresses a
notification service and goes on with the reply, notes events in the journal, and takes and
returns locks.  What a procedure does is data, so one definition serves every device: a run
answers its requests one after another from a state, and an interleaving of several procedures
advances them step by step.
-/

namespace ModeSwitch

/-- One request to the outside. -/
inductive Request where
  /-- Is the attribute present? -/
  | probe (path : AttrPath)
  | read (path : AttrPath)
  | write (path : AttrPath) (contents : String)
  | withdraw (id : UInt32)
  | post (notification : Notification)
  deriving DecidableEq, Repr

/-- What a request is answered with, if it is answered at all. -/
abbrev Request.Reply : Request → Type
  | .probe _ => Bool
  | .read _ => Except StoreError String
  | .write _ _ => Except StoreError Unit
  | .withdraw _ => Except NotifyError Unit
  | .post _ => Except NotifyError Unit

/-- A conversation with a device that ends in a value. -/
inductive Procedure (α : Type) where
  | done (value : α)
  | ask (request : Request) (next : request.Reply → Procedure α)
  | note (event : Event) (next : Procedure α)
  /-- Takes a lock as soon as it is free, and learns whether a panic has poisoned it. -/
  | acquire (lock : Nat) (next : Bool → Procedure α)
  | release (lock : Nat) (next : Procedure α)

namespace Procedure

variable {α β : Type}

def bind : Procedure α → (α → Procedure β) → Procedure β
  | .done value, f => f value
  | .ask request next, f => .ask request fun reply => bind (next reply) f
  | .note event next, f => .note event (bind next f)
  | .acquire lock next, f => .acquire lock fun poisoned => bind (next poisoned) f
  | .release lock next, f => .release lock (bind next f)

instance : Monad Procedure where
  pure := .done
  bind := bind

def request (r : Request) : Procedure r.Reply :=
  .ask r .done

def log (event : Event) : Procedure Unit :=
  .note event (.done ())

/-- Runs a procedure for each element, in order, and collects the values. -/
def gather (f : α → Procedure β) : List α → Procedure (List β)
  | [] => pure []
  | a :: rest => do
      let value ← f a
      let values ← gather f rest
      return value :: values

/-- Runs a procedure while holding a lock.  A poisoned lock is taken like any other: the attribute
itself stays authoritative. -/
def holding (lock : Nat) (body : Procedure α) : Procedure α :=
  .acquire lock fun _ => bind body fun value => .release lock (.done value)

end Procedure

/-- The state of a lock. -/
structure LockState where
  held : Bool
  poisoned : Bool
  deriving DecidableEq, Repr

/-- The states of all locks. -/
abbrev Locks := Nat → LockState

namespace Locks

def fresh : Locks := fun _ => ⟨false, false⟩

def set (locks : Locks) (lock : Nat) (state : LockState) : Locks :=
  fun n => if n = lock then state else locks n

def take (locks : Locks) (lock : Nat) : Locks :=
  locks.set lock { locks lock with held := true }

def giveBack (locks : Locks) (lock : Nat) : Locks :=
  locks.set lock { locks lock with held := false }

/-- The lock is returned by a holder that panicked. -/
def poison (locks : Locks) (lock : Nat) : Locks :=
  locks.set lock ⟨false, true⟩

end Locks

/-- What a device does with a request: its reply, or none if it panics, the events it notes, and
its next state. -/
structure Reaction (σ ρ : Type) where
  reply : Option ρ
  events : List Event
  state : σ

/-- A device as it answers requests. -/
abbrev Responder (σ : Type) := (r : Request) → σ → Reaction σ r.Reply

/-- How a run ends. -/
inductive Ending (α : Type) where
  | finished (value : α)
  /-- A request panicked; the locks held at that point are poisoned and free again. -/
  | panicked
  /-- A lock was held already and will never be returned. -/
  | blocked
  deriving DecidableEq, Repr

def Ending.value? {α : Type} : Ending α → Option α
  | .finished value => some value
  | .panicked | .blocked => none

/-- The course of one run. -/
structure Run (σ α : Type) where
  ending : Ending α
  /-- The requests in order, the last of a panicking run included. -/
  requests : List Request
  /-- The events in order, those of the device among them. -/
  events : List Event
  state : σ
  locks : Locks

namespace Procedure

variable {σ α : Type}

/-- Runs a procedure that holds the locks `held`. -/
def runHolding (respond : Responder σ) : Procedure α → List Nat → σ → Locks → Run σ α
  | .done value, _, state, locks => ⟨.finished value, [], [], state, locks⟩
  | .ask request next, held, state, locks =>
      let reaction := respond request state
      match reaction.reply with
      | none => ⟨.panicked, [request], reaction.events, reaction.state, held.foldl .poison locks⟩
      | some reply =>
          let rest := runHolding respond (next reply) held reaction.state locks
          { rest with
            requests := request :: rest.requests
            events := reaction.events ++ rest.events }
  | .note event next, held, state, locks =>
      let rest := runHolding respond next held state locks
      { rest with events := event :: rest.events }
  | .acquire lock next, held, state, locks =>
      if (locks lock).held then ⟨.blocked, [], [], state, locks⟩
      else
        runHolding respond (next (locks lock).poisoned) (lock :: held) state (locks.take lock)
  | .release lock next, held, state, locks =>
      runHolding respond next (held.erase lock) state (locks.giveBack lock)

def run (respond : Responder σ) (procedure : Procedure α) (state : σ) (locks : Locks) :
    Run σ α :=
  procedure.runHolding respond [] state locks

end Procedure

end ModeSwitch
