import ModeSwitch.Proofs.Mode.Encoding

/-! Which texts are read as which mode.

A mode token with line endings behind it is read as that mode, and every other text is kept without
its line endings.  Tokens of a description do not end in a line ending.  With tokens that do, or that
line endings tell apart, the line that requests a state may be read as the other one.
-/

namespace ModeSwitch

open Text

theorem State.eq_disabled_iff {state : State} : state = .disabled ↔ state ≠ .enabled := by
  cases state <;> simp

theorem Reading.state_eq_enabled_iff {reading : Reading}
    : reading.state = .enabled ↔ reading = .enabled := by
  cases reading <;> simp [state]

/-- A text of line endings is no line of a token, for a token is not empty. -/
theorem not_isLineOf_of_isLineEnds {token raw : String} (word : isToken token = true)
    (blank : IsLineEnds raw)
    : ¬ IsLineOf token raw := by
  rw [isLineOf_iff_trimLineEnds_eq (not_endsInLineEnd_of_isToken word), blank.trimLineEnds_eq_empty]
  rintro rfl
  cases word

namespace Tokens

/-- The text stands for the reading. -/
def Spells (tokens : Tokens) (raw : String) : Reading → Prop
  | .enabled => IsLineOf tokens.enabled raw
  | .disabled => IsLineOf tokens.disabled raw
  | .unrecognized value =>
      ¬ IsLineOf tokens.enabled raw
      ∧ ¬ IsLineOf tokens.disabled raw
      ∧ IsLineOf value raw
      ∧ ¬ EndsInLineEnd value

section WellFormed

variable {spec : ToggleSpec} (formed : spec.WellFormed) {raw : String}

include formed

theorem isLineOf_enabled_iff
    : IsLineOf spec.tokens.enabled raw ↔ trimLineEnds raw = spec.tokens.enabled :=
  isLineOf_iff_trimLineEnds_eq (not_endsInLineEnd_of_isToken formed.enabledWord)

theorem isLineOf_disabled_iff
    : IsLineOf spec.tokens.disabled raw ↔ trimLineEnds raw = spec.tokens.disabled :=
  isLineOf_iff_trimLineEnds_eq (not_endsInLineEnd_of_isToken formed.disabledWord)

/-- A text stands for what it is classified as. -/
theorem spells_classify (raw : String)
    : spec.tokens.Spells raw (spec.tokens.classify raw) := by
  unfold classify
  dsimp only
  split
  · rename_i on
    exact (isLineOf_enabled_iff formed).mpr on
  · rename_i notOn
    split
    · rename_i off
      exact (isLineOf_disabled_iff formed).mpr off
    · rename_i notOff
      exact ⟨mt (isLineOf_enabled_iff formed).mp notOn, mt (isLineOf_disabled_iff formed).mp notOff,
        isLineOf_trimLineEnds raw, not_endsInLineEnd_trimLineEnds raw⟩

/-- A text stands for one reading only: the tokens differ, and without its line endings a text is one
value. -/
theorem spells_unique {first second : Reading} (one : spec.tokens.Spells raw first)
    (other : spec.tokens.Spells raw second)
    : first = second := by
  have apart (on : IsLineOf spec.tokens.enabled raw) (off : IsLineOf spec.tokens.disabled raw)
      : False :=
    formed.distinct
      (((isLineOf_enabled_iff formed).mp on).symm.trans ((isLineOf_disabled_iff formed).mp off))
  cases first with
  | enabled =>
      cases second with
      | enabled => rfl
      | disabled => exact (apart one other).elim
      | unrecognized value => exact (other.1 one).elim
  | disabled =>
      cases second with
      | enabled => exact (apart other one).elim
      | disabled => rfl
      | unrecognized value => exact (other.2.1 one).elim
  | unrecognized value =>
      cases second with
      | enabled => exact (one.1 other).elim
      | disabled => exact (one.2.1 other).elim
      | unrecognized value' =>
          have value_eq : trimLineEnds raw = value := trimLineEnds_eq_iff.mpr one.2.2
          have value_eq' : trimLineEnds raw = value' := trimLineEnds_eq_iff.mpr other.2.2
          exact congrArg Reading.unrecognized (value_eq.symm.trans value_eq')

/-- A text is classified as what it stands for. -/
theorem classify_eq_iff {reading : Reading}
    : spec.tokens.classify raw = reading ↔ spec.tokens.Spells raw reading :=
  ⟨fun same => same ▸ spells_classify formed raw, spells_unique formed (spells_classify formed raw)⟩

end WellFormed

variable (tokens : Tokens)

/-- The line feed behind a token is cut off with whatever else the token ends in. -/
theorem trimLineEnds_line (requested : State)
    : trimLineEnds (tokens.line requested) = trimLineEnds (tokens.token requested) :=
  trimLineEnds_append _ .lineFeed

/-- The line for a state is read as enabled exactly if its token is the enabled one without its line
endings. -/
theorem state_classify_line_eq_enabled_iff (requested : State)
    : (tokens.classify (tokens.line requested)).state = .enabled
      ↔ trimLineEnds (tokens.token requested) = tokens.enabled := by
  rw [classify_state_eq_enabled_iff, trimLineEnds_line]

/-- The line that requests a state is read as that state, for either state, exactly if the enabled
token does not end in a line ending and the disabled one, without its line endings, is another one.
The tokens of a description are such tokens. -/
theorem reads_back_iff (tokens : Tokens)
    : let asked (requested : State) := tokens.classify (tokens.line requested)
      let stripped := trimLineEnds tokens.disabled
      (asked .enabled = .enabled ↔ ¬ EndsInLineEnd tokens.enabled)
      ∧ (EndsInLineEnd tokens.enabled → (asked .enabled).state = .disabled)
      ∧ (IsLineOf stripped tokens.disabled ∧ ¬ EndsInLineEnd stripped)
      ∧ ((asked .disabled).state = .disabled ↔ stripped ≠ tokens.enabled)
      ∧ ((∀ requested, (asked requested).state = requested)
        ↔ ¬ EndsInLineEnd tokens.enabled ∧ stripped ≠ tokens.enabled)
      ∧ ∀ config : Config,
          config.validate = .ok ()
          → (∃ spec ∈ config.toggles, spec.tokens = tokens)
          → ¬ EndsInLineEnd tokens.enabled ∧ stripped ≠ tokens.enabled := by
  intro asked stripped
  have on : (asked .enabled).state = .enabled ↔ ¬ EndsInLineEnd tokens.enabled :=
    (tokens.state_classify_line_eq_enabled_iff .enabled).trans trimLineEnds_eq_self_iff
  have off : (asked .disabled).state = .disabled ↔ stripped ≠ tokens.enabled :=
    State.eq_disabled_iff.trans (not_congr (tokens.state_classify_line_eq_enabled_iff .disabled))
  have both
      : (∀ requested, (asked requested).state = requested)
        ↔ ¬ EndsInLineEnd tokens.enabled ∧ stripped ≠ tokens.enabled := by
    rw [← on, ← off]
    refine ⟨fun reads => ⟨reads .enabled, reads .disabled⟩, fun reads requested => ?_⟩
    cases requested with
    | enabled => exact reads.1
    | disabled => exact reads.2
  refine ⟨Reading.state_eq_enabled_iff.symm.trans on, fun ends => ?_,
    ⟨isLineOf_trimLineEnds _, not_endsInLineEnd_trimLineEnds _⟩, off, both, ?_⟩
  · exact State.eq_disabled_iff.mpr fun reads => on.mp reads ends
  · rintro config valid ⟨spec, member, rfl⟩
    exact both.mp ((Config.validate_eq_ok_iff.mp valid).wellFormed spec member).classify_line

/-- Two pairs of tokens that are not read back, and one that is: the enabled token of the first ends in
a line feed, but for a carriage return the second has one token for both states, and the third is that
of a switch. -/
theorem careless_tokens_read_back
    : let fed : Tokens := ⟨"on\n", "off"⟩
      let returned : Tokens := ⟨"on", "on\r"⟩
      let switch : Tokens := Config.charger.toggles[0].tokens
      EndsInLineEnd fed.enabled
      ∧ (fed.classify (fed.line .enabled)).state = .disabled
      ∧ (fed.classify (fed.line .disabled)).state = .disabled
      ∧ returned.classify (returned.line .enabled) = .enabled
      ∧ (returned.classify (returned.line .disabled)).state ≠ .disabled
      ∧ Config.charger.validate = .ok ()
      ∧ (∃ spec ∈ Config.charger.toggles, spec.tokens = switch)
      ∧ ∀ requested, (switch.classify (switch.line requested)).state = requested := by
  intro fed returned switch
  have ends : EndsInLineEnd fed.enabled := .inl (by decide)
  have bare : ¬ EndsInLineEnd returned.enabled := by decide
  have described : ∃ spec ∈ Config.charger.toggles, spec.tokens = switch :=
    ⟨_, List.getElem_mem _, rfl⟩
  obtain ⟨-, swallowed, -, off, -⟩ := reads_back_iff fed
  obtain ⟨on, -, -, clash, -⟩ := reads_back_iff returned
  obtain ⟨-, -, -, -, both, valid⟩ := reads_back_iff switch
  exact ⟨ends, swallowed ends, off.mpr (by decide), on.mpr bare, mt clash.mp (by decide),
    Config.charger_valid, described, both.mpr (valid Config.charger Config.charger_valid described)⟩

end Tokens

end ModeSwitch
