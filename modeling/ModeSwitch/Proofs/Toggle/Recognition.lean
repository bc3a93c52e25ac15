import ModeSwitch.Proofs.Mode.Grammar
import ModeSwitch.Proofs.Toggle.Conversation

/-! When a toggle is on.

A toggle of a description is on only while its attribute holds the enabled token with line endings
behind it.  Whatever else a device answers, the toggle is off.
-/

namespace ModeSwitch.Toggle

open Procedure Text

variable (toggle : Toggle) {σ : Type} (respond : Responder σ) (state : σ) (locks : Locks)

/-- A device that does not answer ends the query. -/
theorem currentState_ending_of_panicked
    (silent : (respond (.read toggle.path) state).reply = none)
    : (toggle.currentState.run respond state locks).ending = .panicked := by
  simp [currentState, readMode, request, bind_eq, Procedure.bind, Procedure.run, runHolding, silent]

/-- A query of the state ends in what the reply shows. -/
theorem currentState_ending_eq_iff (observed : State)
    : (toggle.currentState.run respond state locks).ending = .finished observed
      ↔ ∃ found,
          (respond (.read toggle.path) state).reply = some found ∧ toggle.shown found = observed := by
  cases replied : (respond (.read toggle.path) state).reply with
  | none => simp [toggle.currentState_ending_of_panicked respond state locks replied]
  | some found =>
      have ended := (toggle.currentState_course [] locks replied).ending_eq
      rw [Procedure.run, ended]
      simp

variable {spec : ToggleSpec}

/-- A described toggle is shown on by a line of its enabled token, and by nothing else. -/
theorem shown_ofSpec_eq_enabled_iff (formed : spec.WellFormed) (found : Except StoreError String)
    : (ofSpec spec).shown found = .enabled
      ↔ ∃ raw, found = .ok raw ∧ IsLineOf spec.tokens.enabled raw := by
  rw [shown_eq_enabled_iff]
  exact exists_congr fun raw => and_congr_right fun _ => (Tokens.isLineOf_enabled_iff formed).symm

section Described

variable (formed : spec.WellFormed)

include formed

/-- Whatever the device, a described toggle is on exactly if a line of its enabled token is read. -/
theorem currentState_enabled_iff
    : ((ofSpec spec).currentState.run respond state locks).ending = .finished .enabled
      ↔ ∃ raw,
          (respond (.read (ofSpec spec).path) state).reply = some (.ok raw)
          ∧ IsLineOf spec.tokens.enabled raw := by
  rw [currentState_ending_eq_iff]
  constructor
  · rintro ⟨found, replied, on⟩
    obtain ⟨raw, rfl, line⟩ := (shown_ofSpec_eq_enabled_iff formed found).mp on
    exact ⟨raw, replied, line⟩
  · rintro ⟨raw, replied, line⟩
    exact ⟨.ok raw, replied, (shown_ofSpec_eq_enabled_iff formed _).mpr ⟨raw, rfl, line⟩⟩

variable {respond state}

/-- A toggle whose attribute cannot be read counts as off. -/
theorem currentState_disabled_of_error {cause : StoreError}
    (replied : (respond (.read (ofSpec spec).path) state).reply = some (.error cause))
    : ((ofSpec spec).currentState.run respond state locks).ending = .finished .disabled := by
  refine (currentState_ending_eq_iff ..).mpr ⟨_, replied, State.eq_disabled_iff.mpr fun on => ?_⟩
  obtain ⟨raw, same, -⟩ := (shown_ofSpec_eq_enabled_iff formed _).mp on
  cases same

/-- Anything but a line of the enabled token counts as off. -/
theorem currentState_disabled_of_not_isLineOf {raw : String}
    (replied : (respond (.read (ofSpec spec).path) state).reply = some (.ok raw))
    (other : ¬ IsLineOf spec.tokens.enabled raw)
    : ((ofSpec spec).currentState.run respond state locks).ending = .finished .disabled := by
  refine (currentState_ending_eq_iff ..).mpr ⟨_, replied, State.eq_disabled_iff.mpr fun on => ?_⟩
  obtain ⟨_, same, line⟩ := (shown_ofSpec_eq_enabled_iff formed _).mp on
  cases same
  exact other line

end Described

/-- A text that is read in a described toggle is the enabled token with line endings behind it, the
disabled one, or anything else, and is classified as just one of them.  So on any device the toggle is
on exactly if the device answers with the first: it is off if the device fails to read, if it finds
nothing or line endings only, and if it finds the enabled token with something added to it. -/
theorem on_only_by_enabled_token {config : Config} (valid : config.validate = .ok ())
    {spec : ToggleSpec} (member : spec ∈ config.toggles)
    : let tokens := spec.tokens
      let toggle := ofSpec spec
      (∀ raw reading, tokens.classify raw = reading ↔ tokens.Spells raw reading)
      ∧ (∀ raw, ∃! reading, tokens.Spells raw reading)
      ∧ ∀ {σ : Type} (respond : Responder σ) (state : σ) (locks : Locks),
          let reply := (respond (.read toggle.path) state).reply
          let ending := (toggle.currentState.run respond state locks).ending
          (ending = .finished .enabled
            ↔ ∃ raw, reply = some (.ok raw) ∧ IsLineOf tokens.enabled raw)
          ∧ (∀ cause, reply = some (.error cause) → ending = .finished .disabled)
          ∧ (∀ raw,
              reply = some (.ok raw)
              → ¬ IsLineOf tokens.enabled raw
              → ending = .finished .disabled)
          ∧ (∀ raw, reply = some (.ok raw) → IsLineEnds raw → ending = .finished .disabled)
          ∧ ∀ front added back ends,
              tokens.enabled = front ++ back
              → added ≠ ""
              → (back = "" → ¬ IsLineEnds added)
              → IsLineEnds ends
              → reply = some (.ok (front ++ added ++ back ++ ends))
              → ending = .finished .disabled := by
  intro tokens toggle
  have formed : spec.WellFormed := (Config.validate_eq_ok_iff.mp valid).wellFormed spec member
  refine ⟨fun raw reading => Tokens.classify_eq_iff formed,
    fun raw => ⟨_, Tokens.spells_classify formed raw, fun _ other =>
      Tokens.spells_unique formed other (Tokens.spells_classify formed raw)⟩,
    fun respond state locks => ?_⟩
  refine ⟨currentState_enabled_iff respond state locks formed,
    fun cause replied => currentState_disabled_of_error locks formed replied,
    fun raw replied other => currentState_disabled_of_not_isLineOf locks formed replied other,
    fun raw replied blank => ?_, fun front added back ends split nonempty behind run replied => ?_⟩
  · exact currentState_disabled_of_not_isLineOf locks formed replied
      (not_isLineOf_of_isLineEnds formed.enabledWord blank)
  · refine currentState_disabled_of_not_isLineOf locks formed replied ?_
    -- The token ends in no line ending, so none of the additions can be taken for the end of its line.
    have bare := not_endsInLineEnd_of_isToken formed.enabledWord
    rw [show spec.tokens.enabled = front ++ back from split] at bare ⊢
    exact not_isLineOf_of_added bare nonempty behind run

/-- A switch whose enabled token is 1 is on with the line endings of two systems behind it, and off
with an exclamation mark before them. -/
theorem fast_on_only_by_enabled_token
    : let fast : ToggleSpec := Config.charger.toggles[0]
      let holding (contents : String) : RecordingDevice :=
        ⟨MemoryStore.charger.intervene (.put fast.path contents), .fresh false⟩
      let ending (contents : String) :=
        ((ofSpec fast).currentState.run RecordingDevice.respond (holding contents) .fresh).ending
      Config.charger.validate = .ok ()
      ∧ fast ∈ Config.charger.toggles
      ∧ fast.tokens.classify "1\r\n\n" = .enabled
      ∧ ending "1\r\n\n" = .finished .enabled
      ∧ ending "1!\n" = .finished .disabled
      ∧ ending "\n" = .finished .disabled := by
  intro fast holding ending
  have member : fast ∈ Config.charger.toggles := List.getElem_mem _
  obtain ⟨classified, -, queried⟩ := on_only_by_enabled_token Config.charger_valid member
  have found (contents : String)
      : (RecordingDevice.respond (.read fast.path) (holding contents)).reply
        = some (.ok contents) :=
    congrArg some (MemoryStore.readAt_intervene_put rfl fast.path contents)
  have line : IsLineOf "1" "1\r\n\n" := ⟨"\r\n\n", by decide, rfl⟩
  obtain ⟨on, -⟩ := queried RecordingDevice.respond (holding "1\r\n\n") .fresh
  obtain ⟨-, -, -, -, added⟩ := queried RecordingDevice.respond (holding "1!\n") .fresh
  obtain ⟨-, -, -, blank, -⟩ := queried RecordingDevice.respond (holding "\n") .fresh
  exact ⟨Config.charger_valid, member, (classified _ .enabled).mpr line,
    on.mpr ⟨_, found _, line⟩,
    added "1" "!" "" "\n" rfl (by decide) (fun _ => by decide) (by decide) (found _),
    blank "\n" (found _) (by decide)⟩

end ModeSwitch.Toggle
