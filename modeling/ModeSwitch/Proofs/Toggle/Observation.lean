import ModeSwitch.Proofs.Mode.Encoding
import ModeSwitch.Proofs.Toggle.Protocol
import ModeSwitch.Settings

/-! What a toggle shows on an accepting driver.

The state of a toggle is read off the contents of its attribute.  A toggle shows the state that was
requested of it last, and a write to another place does not change what it shows.
-/

namespace ModeSwitch.Toggle

variable {toggle : Toggle} {store : MemoryStore}

/-- What a toggle shows depends only on what reading its attribute finds. -/
theorem observe_congr {other : MemoryStore}
    (same : store.readAt toggle.path = other.readAt toggle.path)
    : toggle.observe store = toggle.observe other := by
  simp only [observe, same]

/-- A toggle shows the same after a write to another place. -/
theorem observe_accepting_of_ne {path : AttrPath} (h : ¬ toggle.path.SamePlace path) (line : String)
    : toggle.observe (store.accepting path line) = toggle.observe store :=
  observe_congr (store.readAt_accepting_of_ne h line)

/-- A toggle is on exactly when its attribute holds the enabled token before its line endings. -/
theorem observe_eq_enabled_iff (accepts : store.Accepts)
    : toggle.observe store = .enabled
      ↔ (store.contents? toggle.path).map Text.trimLineEnds = some toggle.tokens.enabled := by
  unfold observe MemoryStore.readAt
  rw [accepts.readable]
  cases store.contents? toggle.path with
  | none => simp
  | some raw => simpa using toggle.tokens.classify_state_eq_enabled_iff raw

/-- A toggle shows what the line written to its place reads as, whoever wrote it. -/
theorem observe_accepting {path : AttrPath} (accepts : store.Accepts)
    (same : toggle.path.SamePlace path) (present : store.holds toggle.path = true) (line : String)
    : toggle.observe (store.accepting path line) = (toggle.tokens.classify line).state := by
  have written : (store.accepting path line).contents? toggle.path = some line := by
    obtain ⟨initial, found⟩ := Option.isSome_iff_exists.mp present
    simp [accepts.contents_accepting, same, found]
  have readable : (store.accepting path line).failReads = false := accepts.readable
  simp [observe, MemoryStore.readAt, written, readable]

/-- A described toggle shows the state whose line was just written to its attribute. -/
theorem observe_ofSpec_accepting {spec : ToggleSpec} (accepts : store.Accepts)
    (formed : spec.WellFormed) (present : store.holds spec.path = true) (requested : State)
    : (ofSpec spec).observe (store.accepting spec.path (spec.tokens.line requested))
      = requested := by
  have same : (ofSpec spec).path.SamePlace spec.path := rfl
  rw [observe_accepting accepts same present]
  exact formed.classify_line requested

end ModeSwitch.Toggle
