import ModeSwitch.Proofs.Procedure.Holding

/-! Procedures that an observer cannot tell apart.

An observer heeds the replies to some requests and sees some events.  Two procedures agree for an
observer when they ask the same requests, touch the same locks and end in the same values as long as
the heeded replies are the same, and note the same events as far as they are seen.  Nobody heeds
whether a lock is poisoned.  Procedures that agree run alike on devices that are alike.
-/

namespace ModeSwitch

/-- Somebody who compares two runs. -/
structure Observer where
  /-- May the replies to a request matter? -/
  heeds : Request → Prop
  sees : Event → Bool

namespace Observer

def seen (observer : Observer) (events : List Event) : List Event :=
  events.filter observer.sees

@[simp]
theorem seen_append (observer : Observer) (first second : List Event)
    : observer.seen (first ++ second) = observer.seen first ++ observer.seen second :=
  List.filter_append ..

def full : Observer where
  heeds _ := True
  sees _ := true

@[simp]
theorem seen_full (events : List Event) : full.seen events = events :=
  List.filter_eq_self.mpr fun _ _ => rfl

end Observer

namespace Locks

/-- The same locks are held, whichever of them are poisoned. -/
def SameHeld (locks other : Locks) : Prop :=
  ∀ lock, (locks lock).held = (other lock).held

namespace SameHeld

variable {locks other : Locks}

theorem refl (locks : Locks) : locks.SameHeld locks :=
  fun _ => rfl

theorem of_free (free : locks.Free) (free' : other.Free) : locks.SameHeld other :=
  fun lock => (free lock).trans (free' lock).symm

/-- Giving one lock two states that are both held or both free changes nothing. -/
theorem set (same : locks.SameHeld other) (lock : Nat) {state state' : LockState}
    (held : state.held = state'.held)
    : (locks.set lock state).SameHeld (other.set lock state') := by
  intro n
  by_cases h : n = lock
  · simpa [Locks.set, h] using held
  · simpa [Locks.set, h] using same n

theorem take (same : locks.SameHeld other) (lock : Nat)
    : (locks.take lock).SameHeld (other.take lock) :=
  same.set lock rfl

theorem giveBack (same : locks.SameHeld other) (lock : Nat)
    : (locks.giveBack lock).SameHeld (other.giveBack lock) :=
  same.set lock rfl

/-- A panic frees the same locks on both sides, by induction on what is held. -/
theorem poison (same : locks.SameHeld other) (held : List Nat)
    : (held.foldl .poison locks).SameHeld (held.foldl .poison other) := by
  induction held generalizing locks other with
  | nil => exact same
  | cons lock held ih => exact ih (same.set lock rfl)

end SameHeld

end Locks

namespace Procedure

variable {σ τ α β : Type} {observer : Observer}

/-- Two procedures that an observer cannot tell apart. -/
inductive Agree (observer : Observer) : Procedure α → Procedure α → Prop where
  | done (value : α) : Agree observer (.done value) (.done value)
  /-- Both ask the same request, and go on alike after the same reply.  After a reply that is not
  heeded they go on alike in any case. -/
  | ask {request : Request} {next next' : request.Reply → Procedure α}
    (rest
      : ∀ reply reply',
          (observer.heeds request → reply = reply')
          → Agree observer (next reply) (next' reply'))
    : Agree observer (.ask request next) (.ask request next')
  | note (event : Event) {p q : Procedure α} (rest : Agree observer p q)
    : Agree observer (.note event p) (.note event q)
  /-- The first one notes an event that is not seen. -/
  | noteFirst {event : Event} {p q : Procedure α} (unseen : observer.sees event = false)
    (rest : Agree observer p q)
    : Agree observer (.note event p) q
  /-- The second one notes an event that is not seen. -/
  | noteSecond {event : Event} {p q : Procedure α} (unseen : observer.sees event = false)
    (rest : Agree observer p q)
    : Agree observer p (.note event q)
  | acquire (lock : Nat) {next next' : Bool → Procedure α}
    (rest : ∀ poisoned poisoned', Agree observer (next poisoned) (next' poisoned'))
    : Agree observer (.acquire lock next) (.acquire lock next')
  | release (lock : Nat) {p q : Procedure α} (rest : Agree observer p q)
    : Agree observer (.release lock p) (.release lock q)

namespace Agree

/-- Procedures that agree may go on with procedures that agree. -/
theorem bind {p q : Procedure α} {f g : α → Procedure β} (first : p.Agree observer q)
    (rest : ∀ value, (f value).Agree observer (g value))
    : (p.bind f).Agree observer (q.bind g) := by
  induction first with
  | done value => exact rest value
  | ask _ ih => exact .ask fun reply reply' same => ih reply reply' same
  | note event _ ih => exact .note event ih
  | noteFirst unseen _ ih => exact .noteFirst unseen ih
  | noteSecond unseen _ ih => exact .noteSecond unseen ih
  | acquire lock _ ih => exact .acquire lock fun poisoned poisoned' => ih poisoned poisoned'
  | release lock _ ih => exact .release lock ih

/-- Procedures that agree also agree while they hold a lock: none of them learns whether it is
poisoned. -/
theorem holding {p q : Procedure α} (body : p.Agree observer q) (lock : Nat)
    : (Procedure.holding lock p).Agree observer (Procedure.holding lock q) :=
  .acquire lock fun _ _ => body.bind fun value => .release lock (.done value)

/-- A request whose replies make no difference but for an unseen note agrees with itself, whether or
not they are heeded. -/
theorem ask_noted {request : Request} {next : request.Reply → Procedure α} {rest : Procedure α}
    (after
      : ∀ reply,
          next reply = rest
          ∨ ∃ event, observer.sees event = false ∧ next reply = .note event rest)
    (agrees : rest.Agree observer rest)
    : (Procedure.ask request next).Agree observer (.ask request next) := by
  have first (reply : request.Reply) : (next reply).Agree observer rest := by
    rcases after reply with same | ⟨event, unseen, same⟩
    · exact same ▸ agrees
    · exact same ▸ .noteFirst unseen agrees
  refine .ask fun reply reply' _ => ?_
  rcases after reply' with same | ⟨event, unseen, same⟩
  · exact same ▸ first reply
  · exact same ▸ .noteSecond unseen (first reply)

end Agree

/-- A procedure whose replies are all heeded agrees with itself. -/
theorem Only.agree {allowed : Request → Prop} {p : Procedure α} (h : p.Only allowed)
    (heeded : ∀ request, allowed request → observer.heeds request)
    : p.Agree observer p := by
  induction p with
  | done value => exact .done value
  | ask request next ih =>
      refine .ask fun reply reply' same => ?_
      obtain rfl := same (heeded request h.1)
      exact ih reply (h.2 reply)
  | note event next ih => exact .note event (ih h)
  | acquire lock next ih => exact h.elim
  | release lock next ih => exact h.elim

end Procedure

/-- Two devices that an observer cannot tell apart as long as their states are related. -/
structure Responder.Alike {σ τ : Type} (observer : Observer) (Related : σ → τ → Prop)
    (respond : Responder σ) (other : Responder τ) : Prop where
  /-- A heeded request is answered alike. -/
  reply_eq
    : ∀ request s t,
        Related s t
        → observer.heeds request
        → (respond request s).reply = (other request t).reply
  /-- Either both panic or none does. -/
  answered_eq
    : ∀ request s t,
        Related s t
        → (respond request s).reply.isSome = (other request t).reply.isSome
  seen_eq
    : ∀ request s t,
        Related s t
        → observer.seen (respond request s).events = observer.seen (other request t).events
  related
    : ∀ request s t, Related s t → Related (respond request s).state (other request t).state

/-- Two runs that an observer cannot tell apart. -/
structure Run.Alike {σ τ α : Type} (observer : Observer) (Related : σ → τ → Prop)
    (run : Run σ α) (other : Run τ α) : Prop where
  ending_eq : run.ending = other.ending
  requests_eq : run.requests = other.requests
  seen_eq : observer.seen run.events = observer.seen other.events
  related : Related run.state other.state
  held : run.locks.SameHeld other.locks

namespace Procedure.Agree

variable {σ τ α : Type} {observer : Observer} {Related : σ → τ → Prop} {respond : Responder σ}
  {other : Responder τ} {p q : Procedure α}

/-- Procedures that agree run alike on devices that are alike, by induction on the agreement. -/
theorem runHolding_alike (agree : p.Agree observer q)
    (devices : Responder.Alike observer Related respond other) (held : List Nat) {s : σ} {t : τ}
    (related : Related s t) {locks locks' : Locks} (same : locks.SameHeld locks')
    : Run.Alike observer Related (p.runHolding respond held s locks)
        (q.runHolding other held t locks') := by
  induction agree generalizing held s t locks locks' with
  | done value => exact ⟨rfl, rfl, rfl, related, same⟩
  | @ask request next next' _ ih =>
      have answered := devices.answered_eq request s t related
      have seen := devices.seen_eq request s t related
      have after := devices.related request s t related
      simp only [runHolding]
      cases found : (respond request s).reply with
      | none =>
          have found' : (other request t).reply = none := by simpa [found] using answered
          rw [found']
          exact ⟨rfl, rfl, seen, after, same.poison held⟩
      | some reply =>
          obtain ⟨reply', found'⟩ : ∃ reply', (other request t).reply = some reply' :=
            Option.isSome_iff_exists.mp (by simp [← answered, found])
          have heeded : observer.heeds request → reply = reply' := by
            intro heeds
            have replies := devices.reply_eq request s t related heeds
            rwa [found, found', Option.some.injEq] at replies
          -- The replies may differ where they are not heeded, so `ih` is taken at both of them.
          have rest := ih reply reply' heeded held after same
          rw [found']
          refine ⟨rest.ending_eq, ?_, ?_, rest.related, rest.held⟩
          · simp only [rest.requests_eq]
          · simp only [Observer.seen_append, seen, rest.seen_eq]
  | note event _ ih =>
      have rest := ih held related same
      refine ⟨rest.ending_eq, rest.requests_eq, ?_, rest.related, rest.held⟩
      have seen := rest.seen_eq
      simp only [runHolding, Observer.seen, List.filter_cons] at seen ⊢
      rw [seen]
  | noteFirst unseen _ ih =>
      have rest := ih held related same
      refine ⟨rest.ending_eq, rest.requests_eq, ?_, rest.related, rest.held⟩
      simpa [runHolding, Observer.seen, unseen] using rest.seen_eq
  | noteSecond unseen _ ih =>
      have rest := ih held related same
      refine ⟨rest.ending_eq, rest.requests_eq, ?_, rest.related, rest.held⟩
      simpa [runHolding, Observer.seen, unseen] using rest.seen_eq
  | acquire lock _ ih =>
      simp only [runHolding, same lock]
      split
      · exact ⟨rfl, rfl, rfl, related, same⟩
      · exact ih _ _ (lock :: held) related (same.take lock)
  | release lock _ ih => exact ih (held.erase lock) related (same.giveBack lock)

end Procedure.Agree

end ModeSwitch
