import ModeSwitch.Yaml.Content

/-! What a step of decoding ends in.

A step that succeeds on a node without aliases is the same as having the value at hand.  What fails
is told by a property that the value of every success would have: a step without a possible value
fails, and so does whatever goes on from it.
-/

namespace ModeSwitch.Yaml.Decode

variable {α β : Type} {step : Decode α} {Holds : α → Prop}

@[simp]
theorem located_pure (path : Path) (position : Position) (value : α)
    : located path position (pure value) = pure value :=
  rfl

/-- Whatever value a step ends in has a property. -/
def Ensures (step : Decode α) (Holds : α → Prop) : Prop :=
  ∀ count value later, step.run count = .ok (value, later) → Holds value

def Fails (step : Decode α) : Prop :=
  Ensures step fun _ => False

/-- A step from which no value can come ends in an error. -/
theorem Fails.exists_cause (fails : Fails step) (count : Nat)
    : ∃ cause, step.run count = .error cause := by
  cases ended : step.run count with
  | error cause => exact ⟨cause, rfl⟩
  | ok reached => exact (fails count reached.1 reached.2 ended).elim

theorem ensures_pure {value : α} (holds : Holds value) : Ensures (pure value) Holds := by
  intro count reached later ended
  cases ended
  exact holds

theorem Ensures.of_pure {value : α} (ensures : Ensures (pure value) Holds) : Holds value :=
  ensures 0 value 0 rfl

theorem Ensures.imp {Other : α → Prop} (ensures : Ensures step Holds)
    (imp : ∀ value, Holds value → Other value)
    : Ensures step Other :=
  fun count value later ended => imp value (ensures count value later ended)

theorem ensures_throw (cause : DecodeError) : Ensures (throw cause : Decode α) Holds := by
  intro count value later ended
  cases ended

theorem ensures_refuse (cause : Mismatch) : Ensures (refuse cause : Decode α) Holds :=
  ensures_throw _

/-- What the first of two steps ensures may be used by the second one. -/
theorem Ensures.bind {Ends : β → Prop} {next : α → Decode β} (first : Ensures step Holds)
    (rest : ∀ value, Holds value → Ensures (next value) Ends)
    : Ensures (step >>= next) Ends := by
  intro count value later ended
  rw [StateT.run_bind] at ended
  cases reached : step.run count with
  | error cause =>
      rw [reached] at ended
      cases ended
  | ok between =>
      rw [reached] at ended
      exact rest between.1 (first count between.1 between.2 reached) between.2 value later ended

/-- What a step ends in may be settled by how it goes on. -/
theorem ensures_bind {Ends : β → Prop} {next : α → Decode β}
    (rest : ∀ value, Ensures (next value) Ends)
    : Ensures (step >>= next) Ends := by
  have reached : Ensures step fun _ => True := fun _ _ _ _ => trivial
  exact reached.bind fun value _ => rest value

theorem Fails.bind {next : α → Decode β} (fails : Fails step) : Fails (step >>= next) :=
  Ensures.bind fails fun _ impossible => impossible.elim

theorem Fails.ensures (fails : Fails step) : Ensures step Holds :=
  fun count value later ended => (fails count value later ended).elim

theorem Ensures.located (path : Path) (position : Position) (ensures : Ensures step Holds)
    : Ensures (Decode.located path position step) Holds := by
  intro count value later ended
  cases reached : step.run count with
  | error cause =>
      have failed : (step.run count).mapError (·.locate path position) = .ok (value, later) := ended
      rw [reached] at failed
      cases failed
  | ok between =>
      have found : (step.run count).mapError (·.locate path position) = .ok (value, later) := ended
      rw [reached] at found
      obtain rfl : between = (value, later) := Except.ok.inj found
      exact ensures count value later reached

theorem fails_unexpected (node : Node) (expected : String)
    : Fails (unexpected node expected : Decode α) :=
  ensures_bind fun _ => ensures_refuse _

end ModeSwitch.Yaml.Decode
