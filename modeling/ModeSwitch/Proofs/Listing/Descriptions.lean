import ModeSwitch.Listing
import ModeSwitch.Proofs.Mode.Grammar
import ModeSwitch.Proofs.Text.Quoting

/-! What a description of a reading tells.

A description says the state, and between parentheses the token or what stands for a value that is
none.  Such wording holds a space and a token does not, and a value is quoted, so different readings
are described in different words.  None of the words ends a line.
-/

namespace ModeSwitch.Toggle

open Text

/-- What a description says between its parentheses. -/
def detail (toggle : Toggle) : Reading → String
  | .enabled => toggle.tokens.enabled
  | .disabled => toggle.tokens.disabled
  | .unrecognized raw =>
      if raw = "" then "no readable value" else "unrecognized value " ++ quote raw

variable (toggle : Toggle)

/-- Whatever was read of a toggle, its name comes first, and then the word for its state. -/
theorem describe_eq (reading : Reading)
    : toggle.describe reading
      = toggle.name ++ (" is " ++ reading.state.word ++ " (" ++ toggle.detail reading ++ ")") := by
  cases reading with
  | enabled => simp [describe, detail, Reading.state, State.word, ← String.toList_inj]
  | disabled => simp [describe, detail, Reading.state, State.word, ← String.toList_inj]
  | unrecognized raw =>
      by_cases empty : raw = "" <;>
        simp [describe, detail, empty, Reading.state, State.word, ← String.toList_inj]

/-- A description begins with the word for a state exactly if this state was read. -/
theorem describe_begins_iff (reading : Reading) (state : State)
    : (toggle.name ++ " is " ++ state.word ++ " (").toList <+: (toggle.describe reading).toList
      ↔ reading.state = state := by
  rw [describe_eq]
  cases reading.state <;> cases state <;> simp [State.word, List.prefix_append_right_inj]

/-! ## Telling readings apart -/

/-- Only the wording for a value that is no token holds a space. -/
theorem space_mem_detail_unrecognized (raw : String)
    : ' ' ∈ (toggle.detail (.unrecognized raw)).toList := by
  by_cases empty : raw = "" <;> simp [detail, empty]

/-- The wording for a value tells the value, since a quoted text does. -/
theorem eq_of_detail_unrecognized {raw raw' : String}
    (same : toggle.detail (.unrecognized raw) = toggle.detail (.unrecognized raw'))
    : raw = raw' := by
  by_cases empty : raw = "" <;> by_cases empty' : raw' = "" <;>
    simp only [detail, empty, empty', if_true, if_false, String.append_right_inj] at same
  · rw [empty, empty']
  · simp [← String.toList_inj] at same
  · simp [← String.toList_inj] at same
  · exact quote_injective same

/-- A word holds no space. -/
theorem space_notMem_of_isToken {token : String} (word : isToken token = true)
    : ' ' ∉ token.toList := by
  intro space
  simp only [isToken, Bool.and_eq_true, List.all_eq_true, Bool.not_eq_true'] at word
  have solid : isBlank ' ' = false := word.2 ' ' space
  cases solid

variable {toggle}

/-- Readings of one state are told apart by what stands between the parentheses. -/
theorem eq_of_detail {first second : Reading} (word : isToken toggle.tokens.disabled = true)
    (state : first.state = second.state) (same : toggle.detail first = toggle.detail second)
    : first = second := by
  have solid (raw : String) : toggle.detail .disabled ≠ toggle.detail (.unrecognized raw) := by
    intro same
    have space := toggle.space_mem_detail_unrecognized raw
    rw [← same] at space
    exact space_notMem_of_isToken word space
  cases first with
  | enabled => exact (Reading.state_eq_enabled_iff.mp state.symm).symm
  | disabled =>
      cases second with
      | enabled => cases state
      | disabled => rfl
      | unrecognized raw => exact (solid raw same).elim
  | unrecognized raw =>
      cases second with
      | enabled => cases state
      | disabled => exact (solid raw same.symm).elim
      | unrecognized raw' => rw [toggle.eq_of_detail_unrecognized same]

/-- Different readings are described in different words: the state comes first, and what stands
between the parentheses tells the rest. -/
theorem describe_injective (word : isToken toggle.tokens.disabled = true)
    : Function.Injective toggle.describe := by
  intro first second same
  have state : second.state = first.state := by
    rw [← toggle.describe_begins_iff, ← same, toggle.describe_begins_iff]
  simp only [describe_eq, state, String.append_right_inj, String.append_left_inj] at same
  exact eq_of_detail word state.symm same

/-! ## Line ends -/

/-- Neither a token nor the wording for another value ends a line. -/
theorem inLine_detail (enabled : isToken toggle.tokens.enabled = true)
    (disabled : isToken toggle.tokens.disabled = true) (reading : Reading)
    : InLine (toggle.detail reading).toList := by
  cases reading with
  | enabled => exact isLineEnd_of_isToken enabled
  | disabled => exact isLineEnd_of_isToken disabled
  | unrecognized raw =>
      by_cases empty : raw = ""
      · rw [detail, if_pos empty]
        decide
      · rw [detail, if_neg empty, String.toList_append, inLine_append]
        exact ⟨by decide, inLine_quote raw⟩

/-- Nothing behind the name ends a line. -/
theorem inLine_rest (enabled : isToken toggle.tokens.enabled = true)
    (disabled : isToken toggle.tokens.disabled = true) (reading : Reading)
    : InLine (" is " ++ reading.state.word ++ " (" ++ toggle.detail reading ++ ")").toList := by
  have words : InLine (" is " ++ reading.state.word ++ " (").toList := by
    cases reading.state <;> decide
  rw [String.toList_append, String.toList_append, inLine_append, inLine_append]
  exact ⟨⟨words, inLine_detail enabled disabled reading⟩, by decide⟩

/-- If a description that passes validation has a toggle with these tokens, then the words for a
reading tell the reading, whatever text the driver gave.  What stands behind the name of the toggle
holds no line feed and no carriage return. -/
theorem descriptions_tell_readings (toggle : Toggle) {config : Config}
    (valid : config.validate = .ok ())
    (accepted : ∃ spec ∈ config.toggles, spec.tokens = toggle.tokens)
    : (∀ first second, toggle.describe first = toggle.describe second ↔ first = second)
      ∧ ∀ reading, ∃ rest,
          toggle.describe reading = toggle.name ++ rest
          ∧ '\n' ∉ rest.toList
          ∧ '\r' ∉ rest.toList := by
  obtain ⟨spec, member, tokens⟩ := accepted
  have formed := (Config.validate_eq_ok_iff.mp valid).wellFormed spec member
  have enabled : isToken toggle.tokens.enabled = true := tokens ▸ formed.enabledWord
  have disabled : isToken toggle.tokens.disabled = true := tokens ▸ formed.disabledWord
  refine ⟨fun first second => (describe_injective disabled).eq_iff, fun reading => ?_⟩
  have inLine := inLine_rest enabled disabled reading
  refine ⟨_, toggle.describe_eq reading, fun feed => ?_, fun carriage => ?_⟩
  · cases inLine _ feed
  · cases inLine _ carriage

/-- A toggle whose name breaks a line tells a line feed from a backslash and the letter that a line
feed is written as. -/
theorem line_feed_is_told_from_its_form
    : let toggle : Toggle := ⟨"fast\ncharge", ⟨"/sys/charge/mode"⟩, ⟨"1", "0"⟩, none⟩
      (∃ spec ∈ Config.charger.toggles, spec.tokens = toggle.tokens)
      ∧ toggle.describe (.unrecognized "\n") ≠ toggle.describe (.unrecognized "\\n")
      ∧ ∃ rest,
          toggle.describe (.unrecognized "\n") = toggle.name ++ rest
          ∧ '\n' ∉ rest.toList := by
  intro toggle
  have accepted : ∃ spec ∈ Config.charger.toggles, spec.tokens = toggle.tokens :=
    ⟨_, List.mem_cons_self, rfl⟩
  obtain ⟨told, lines⟩ := toggle.descriptions_tell_readings Config.charger_valid accepted
  refine ⟨accepted, mt (told _ _).mp (by decide), ?_⟩
  obtain ⟨rest, described, feed, -⟩ := lines (.unrecognized "\n")
  exact ⟨rest, described, feed⟩

end ModeSwitch.Toggle
