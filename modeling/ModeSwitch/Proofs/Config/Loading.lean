import ModeSwitch.Config.Loading
import ModeSwitch.Proofs.Config.Soundness

/-! What a loaded description is.

Whatever is loaded was decoded from a text first and then found sound, so a text with a faulty
description is refused wherever it comes from.
-/

namespace ModeSwitch

/-- The text of a source, if it can be read. -/
def ConfigSource.text? (readFile : AttrPath → Except StoreError String)
    : ConfigSource → Option String
  | .embedded => some Config.embeddedText
  | .file path => (readFile path).toOption

namespace Config

variable {config : Config} {text : String}

theorem exists_fault_of_unsound (unsound : ¬ config.Sound)
    : ∃ fault, config.validate = .error fault := by
  cases checked : config.validate with
  | error fault => exact ⟨fault, rfl⟩
  | ok done => exact (unsound (validate_eq_ok_iff.mp checked)).elim

section Decoder

/-! What loading makes of a text depends on the decoder only through what the text is decoded to. -/

variable {decode : String → Except Yaml.DecodeError Config}

/-- Once a text was decoded, validation has the last word. -/
theorem parseBy_of_decoded (decoded : decode text = .ok config)
    : parseBy decode text
      = match config.validate with
        | .error fault => .error (.fault fault)
        | .ok () => .ok config := by
  cases checked : config.validate <;> simp only [parseBy, decoded, checked]

theorem parseBy_of_undecoded {cause : Yaml.DecodeError} (undecoded : decode text = .error cause)
    : parseBy decode text = .error (.decode cause) := by
  simp only [parseBy, undecoded]

/-- A text holds a description exactly when it is decoded to it and the description is found valid. -/
theorem parseBy_eq_ok_iff
    : parseBy decode text = .ok config ↔ decode text = .ok config ∧ config.validate = .ok () := by
  constructor
  · intro returned
    cases decoded : decode text with
    | error cause =>
        rw [parseBy_of_undecoded decoded] at returned
        cases returned
    | ok found =>
        rw [parseBy_of_decoded decoded] at returned
        cases checked : found.validate with
        | error fault => simp [checked] at returned
        | ok done =>
            obtain rfl : found = config := by simpa [checked] using returned
            exact ⟨rfl, checked⟩
  · rintro ⟨decoded, valid⟩
    rw [parseBy_of_decoded decoded, valid]

variable {readFile : AttrPath → Except StoreError String} {source : ConfigSource}

/-- A source that can be read is parsed. -/
theorem loadBy_eq_parseFrom (held : source.text? readFile = some text)
    : loadBy decode readFile source = parseFrom decode source text := by
  cases source with
  | embedded =>
      cases held
      rfl
  | file path =>
      have read : readFile path = .ok text := by
        cases found : readFile path with
        | error cause => simp [ConfigSource.text?, found, Except.toOption] at held
        | ok contents => simpa [ConfigSource.text?, found, Except.toOption] using held
      simp only [loadBy, read]

theorem parseBy_of_parseFrom (returned : parseFrom decode source text = .ok config)
    : parseBy decode text = .ok config := by
  unfold parseFrom at returned
  cases found : parseBy decode text with
  | error cause =>
      rw [found] at returned
      cases returned
  | ok other =>
      rw [found] at returned
      cases returned
      rfl

/-- Loading from a source returns what its text is decoded to, if that is found valid. -/
theorem loadBy_eq_ok_iff
    : loadBy decode readFile source = .ok config
      ↔ ∃ text,
          source.text? readFile = some text
          ∧ decode text = .ok config
          ∧ config.validate = .ok () := by
  constructor
  · intro returned
    cases held : source.text? readFile with
    | none =>
        -- Only a file can be without a text, and then it is not loaded.
        cases source with
        | embedded => cases held
        | file path =>
            cases found : readFile path <;>
              simp_all [loadBy, ConfigSource.text?, Except.toOption]
    | some text =>
        rw [loadBy_eq_parseFrom held] at returned
        exact ⟨text, rfl, parseBy_eq_ok_iff.mp (parseBy_of_parseFrom returned)⟩
  · rintro ⟨text, held, parsed⟩
    rw [loadBy_eq_parseFrom held, parseFrom, parseBy_eq_ok_iff.mpr parsed]
    rfl

end Decoder

/-- A source holds a description: its text can be read, it is decoded to the description, and that is
found valid. -/
def HeldBy (config : Config) (readFile : AttrPath → Except StoreError String) (source : ConfigSource)
    : Prop :=
  ∃ text,
    source.text? readFile = some text
    ∧ ofText text = .ok config
    ∧ config.validate = .ok ()

/-- A description is loaded exactly if the source holds it. -/
theorem load_eq_ok_iff {readFile : AttrPath → Except StoreError String} {source : ConfigSource}
    : load readFile source = .ok config ↔ config.HeldBy readFile source :=
  loadBy_eq_ok_iff

end Config

end ModeSwitch
