import ModeSwitch.Proofs.Procedure.Runs

/-! Which events a procedure may note.

What a procedure notes on every course, whatever it is answered, can be told from the procedure
alone.  The events of a run are these and what the device notes itself.
-/

namespace ModeSwitch.Procedure

variable {σ α β : Type} {may : Event → Prop}

/-- Every event that is noted on some course of a procedure is one that may be noted. -/
def Notes (may : Event → Prop) : Procedure α → Prop
  | .done _ => True
  | .ask _ next => ∀ reply, (next reply).Notes may
  | .note event next => may event ∧ next.Notes may
  | .acquire _ next => ∀ poisoned, (next poisoned).Notes may
  | .release _ next => next.Notes may

theorem Notes.mono {wider : Event → Prop} {p : Procedure α} (h : p.Notes may)
    (implies : ∀ event, may event → wider event)
    : p.Notes wider := by
  induction p with
  | done value => trivial
  | ask request next ih => exact fun reply => ih reply (h reply)
  | note event next ih => exact ⟨implies event h.1, ih h.2⟩
  | acquire lock next ih => exact fun poisoned => ih poisoned (h poisoned)
  | release lock next ih => exact ih h

/-- Going on notes what both parts note, by induction on the first. -/
theorem notes_bind {p : Procedure α} {f : α → Procedure β} (first : p.Notes may)
    (rest : ∀ value, (f value).Notes may)
    : (p.bind f).Notes may := by
  induction p with
  | done value => exact rest value
  | ask request next ih => exact fun reply => ih reply (first reply)
  | note event next ih => exact ⟨first.1, ih first.2⟩
  | acquire lock next ih => exact fun poisoned => ih poisoned (first poisoned)
  | release lock next ih => exact ih first

/-- Gathering notes what the procedures for the elements note. -/
theorem notes_gather {f : α → Procedure β} (each : ∀ a, (f a).Notes may) (elements : List α)
    : (gather f elements).Notes may := by
  induction elements with
  | nil => trivial
  | cons a rest ih => exact notes_bind (each a) fun _ => notes_bind ih fun _ => trivial

/-- Holding a lock notes nothing by itself. -/
theorem notes_holding {body : Procedure α} (inside : body.Notes may) (lock : Nat)
    : (holding lock body).Notes may :=
  fun _ => notes_bind inside fun _ => trivial

/-- What a procedure may note and what the device may note is all that a run notes. -/
theorem Notes.of_mem_events {p : Procedure α} (h : p.Notes may) {respond : Responder σ}
    (device : ∀ request state, ∀ event ∈ (respond request state).events, may event)
    (held : List Nat) (state : σ) (locks : Locks)
    : ∀ event ∈ (p.runHolding respond held state locks).events, may event := by
  induction p generalizing held state locks with
  | done value => simp [runHolding]
  | ask request next ih =>
      simp only [runHolding]
      cases (respond request state).reply with
      | none => exact device request state
      | some reply =>
          intro event member
          rcases List.mem_append.mp member with own | later
          · exact device request state event own
          · exact ih reply (h reply) held _ locks event later
  | note event next ih =>
      intro noted member
      rcases List.mem_cons.mp member with rfl | later
      · exact h.1
      · exact ih h.2 held state locks noted later
  | acquire lock next ih =>
      simp only [runHolding]
      split
      · simp
      · exact ih _ (h _) _ state _
  | release lock next ih => exact ih h _ state _

end ModeSwitch.Procedure
