import ModeSwitch.Proofs.Config.Soundness
import ModeSwitch.Proofs.Text.LineEnds

/-! Lines of an attribute and what they are read as.

A driver that takes a line gives it back as it is.  A mode token holds no blank, so the line feed
behind it is all that reading cuts off, and the token is recognized.
-/

namespace ModeSwitch

/-- A mode token holds no line ending. -/
theorem isLineEnd_of_isToken {token : String} (h : isToken token = true)
    : ∀ c ∈ token.toList, Text.isLineEnd c = false := by
  simp only [isToken, Bool.and_eq_true, List.all_eq_true, Bool.not_eq_true'] at h
  intro c member
  cases ends : Text.isLineEnd c with
  | false => rfl
  | true =>
      -- A line ending is blank, and a token holds no blank.
      have blank := Text.isBlank_of_isLineEnd ends
      rw [h.2 c member] at blank
      cases blank

theorem not_endsInLineEnd_of_isToken {token : String} (h : isToken token = true)
    : ¬ Text.EndsInLineEnd token := by
  rw [Text.endsInLineEnd_iff]
  rintro ⟨nonempty, ends⟩
  have kept := isLineEnd_of_isToken h _ (List.getLast_mem nonempty)
  cases kept.symm.trans ends

/-- What an attribute reads as when it holds the token of a state. -/
def State.reading : State → Reading
  | .enabled => .enabled
  | .disabled => .disabled

namespace Tokens

variable (tokens : Tokens)

/-- The line that requests a state is one of two, and ends in a line feed. -/
theorem line_eq (requested : State)
    : tokens.line requested
      = (if requested = .enabled then tokens.enabled else tokens.disabled) ++ "\n" := by
  cases requested <;> rfl

/-- A text reads as enabled exactly when the enabled token is what stands before its line
endings. -/
theorem classify_state_eq_enabled_iff (raw : String)
    : (tokens.classify raw).state = .enabled ↔ Text.trimLineEnds raw = tokens.enabled := by
  unfold classify
  dsimp only
  split
  · rename_i h
    simp [Reading.state, h]
  · rename_i h
    split <;> simp [Reading.state, h]

/-- The line of a token reads as enabled exactly when the token is the enabled one. -/
theorem classify_line_eq_enabled_iff {token : String} (h : isToken token = true)
    : (tokens.classify (token ++ "\n")).state = .enabled ↔ token = tokens.enabled := by
  rw [classify_state_eq_enabled_iff,
    Text.trimLineEnds_append_lineFeed (not_endsInLineEnd_of_isToken h)]

end Tokens

namespace ToggleSpec.WellFormed

variable {spec : ToggleSpec}

/-- Both tokens of a well formed toggle are words. -/
theorem isToken_token (h : spec.WellFormed) (requested : State)
    : isToken (spec.tokens.token requested) = true := by
  cases requested with
  | enabled => exact h.enabledWord
  | disabled => exact h.disabledWord

/-- The line that requests a state reads as that state: the token of the other state is another
one. -/
theorem classify_line (h : spec.WellFormed) (requested : State)
    : (spec.tokens.classify (spec.tokens.line requested)).state = requested := by
  have reads := spec.tokens.classify_line_eq_enabled_iff (h.isToken_token requested)
  cases requested with
  | enabled => exact reads.mpr rfl
  | disabled =>
      cases found : (spec.tokens.classify (spec.tokens.line .disabled)).state with
      | disabled => rfl
      | enabled => exact (h.distinct (reads.mp found).symm).elim

/-- The line of either token is recognized as that token. -/
theorem classify_line_eq (h : spec.WellFormed) (requested : State)
    : spec.tokens.classify (spec.tokens.line requested) = requested.reading := by
  have token : Text.trimLineEnds (spec.tokens.line requested) = spec.tokens.token requested :=
    Text.trimLineEnds_append_lineFeed (not_endsInLineEnd_of_isToken (h.isToken_token requested))
  unfold Tokens.classify
  rw [token]
  cases requested with
  | enabled => simp [Tokens.token, State.reading]
  | disabled => simp [Tokens.token, State.reading, h.distinct.symm]

end ToggleSpec.WellFormed

end ModeSwitch
