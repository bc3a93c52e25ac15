import Mathlib
import ModeSwitch.Proofs.Config.Loading
import ModeSwitch.Proofs.Mode.Encoding
import ModeSwitch.Proofs.Settings.Changes
import ModeSwitch.Proofs.Settings.Queries
import ModeSwitch.Session

/-! How the settings of a loaded description are addressed.

The lookup of a key takes the first slot that has it.  A loaded description is sound, so there is no
second one, and the key stands for its toggle.
-/

namespace ModeSwitch

open Procedure

/-- Does a device answer whenever an attribute is looked at? -/
def Responder.AnswersQueries {σ : Type} (respond : Responder σ) : Prop :=
  ∀ request : Request, request.IsQuery → ∀ state, (respond request state).reply.isSome = true

/-- The entry of a slot has its key and its title, whatever the device answers. -/
theorem Slot.entry_returns (slot : Slot)
    : slot.entry.Returns fun entry => entry.key = slot.toggle.name ∧ entry.title = slot.title := by
  unfold Slot.entry Toggle.isSupported
  simp only [request, bind_eq, Procedure.bind, pure_eq_done]
  intro present
  cases present with
  | true => exact returns_bind (returns_something _) fun _ _ => ⟨rfl, rfl⟩
  | false => exact ⟨rfl, rfl⟩

namespace Settings

/-- The settings lead from a key to the toggle that one specification describes. -/
structure Presents (settings : Settings) (key : String) (spec : ToggleSpec) : Prop where
  toggle : settings.toggle? key = some ⟨key, spec.path, spec.tokens, spec.notification⟩
  /-- Wherever looking is answered, the entry of the key is found, with the title. -/
  entry
    : ∀ {σ : Type} (respond : Responder σ),
        respond.AnswersQueries
        → ∀ state locks,
            ∃ entry,
              ((settings.entry key).run respond state locks).ending = .finished (.ok entry)
              ∧ entry.key = key
              ∧ entry.title = spec.title

/-- The settings know nothing under a key. -/
structure Lacks (settings : Settings) (key : String) : Prop where
  toggle : settings.toggle? key = none
  subject
    : ∀ own body,
        Surface.withToggle ⟨settings, own⟩ (.keyed key) body = .done (.unknownToggle key)
  entry : settings.entry key = .done (.error (.unknownToggle key))
  change : ∀ requested, settings.change key requested = .done (.error (.unknownToggle key))

/-- The settings lead from each key of a description, and from no other, to the one toggle that is
described under it. -/
structure AddressUniquely (settings : Settings) (config : Config) : Prop where
  keys_eq : settings.keys = config.toggles.map (·.key)
  nodup : settings.keys.Nodup
  known
    : ∀ key ∈ settings.keys,
        ∃ spec ∈ config.toggles,
          spec.key = key
          ∧ (∀ other ∈ config.toggles, other.key = key → other = spec)
          ∧ settings.Presents key spec
  unknown : ∀ key, key ∉ settings.keys → settings.Lacks key
  ids
    : settings.slots.Pairwise fun first second =>
        ∀ n m,
          first.toggle.notification = some n → second.toggle.notification = some m → n.id ≠ m.id
  readBack
    : ∀ slot ∈ settings.slots,
        ∀ requested,
          slot.toggle.tokens.classify (slot.toggle.tokens.line requested) = requested.reading

variable {config : Config}

theorem keys_ofConfig (config : Config) : (ofConfig config).keys = config.toggles.map (·.key) :=
  map_slotsFrom (fun _ toggle => toggle.name) [] config.toggles

/-- A described key leads to its toggle and to its title. -/
theorem presents_of_spec (sound : config.Sound) {spec : ToggleSpec}
    (member : spec ∈ config.toggles)
    : (ofConfig config).Presents spec.key spec where
  toggle := toggle?_of_spec sound member
  entry respond answers state locks := by
    obtain ⟨slot, known, presents⟩ := exists_slot?_of_spec sound member
    have title := title_eq_of_presents sound (slot?_eq_some known).1 member presents
    have found : ((ofConfig config).entry spec.key).Returns fun result =>
        ∃ entry, result = .ok entry ∧ entry.key = spec.key ∧ entry.title = spec.title := by
      simp only [Settings.entry, known]
      refine returns_bind slot.entry_returns fun entry shown => ⟨entry, rfl, ?_, ?_⟩
      · rw [shown.1, presents]
        rfl
      · rw [shown.2, title]
    obtain ⟨result, ended, entry, rfl, key, title⟩ :=
      ((ofConfig config).entry_queries spec.key).finishes found answers [] state locks
    exact ⟨entry, ended, key, title⟩

/-- A key that is not described leads nowhere. -/
theorem lacks_of_unknown {key : String} (unknown : key ∉ (ofConfig config).keys)
    : (ofConfig config).Lacks key := by
  have absent : (ofConfig config).slot? key = none := by
    rw [slot?_eq_none_iff]
    rintro spec member rfl
    rw [keys_ofConfig] at unknown
    exact unknown (List.mem_map_of_mem member)
  have none : (ofConfig config).toggle? key = none := by simp [toggle?, absent]
  exact {
    toggle := none
    subject := fun own body => by simp [Surface.withToggle, Surface.toggle?, none]
    entry := by simp [entry, absent]
    change := change_of_unknown absent
  }

/-- The settings of a sound description can be addressed by its keys. -/
theorem addressUniquely (sound : config.Sound) : (ofConfig config).AddressUniquely config where
  keys_eq := keys_ofConfig config
  nodup := by
    rw [keys_ofConfig, List.Nodup, List.pairwise_map]
    exact sound.compatible.imp fun compatible => compatible.keys
  known key member := by
    rw [keys_ofConfig] at member
    obtain ⟨spec, described, rfl⟩ := List.mem_map.mp member
    exact ⟨spec, described, rfl, fun other member same => sound.spec_eq_of_key member described same,
      presents_of_spec sound described⟩
  unknown _ := lacks_of_unknown
  ids := by
    -- The slots show the notifications in the order of the description.
    have shown := map_slotsFrom (fun _ toggle => toggle.notification) [] config.toggles
    have apart : ((ofConfig config).slots.map (·.toggle.notification)).Pairwise fun first second =>
        ∀ n m, first = some n → second = some m → n.id ≠ m.id := by
      rw [ofConfig, shown, List.pairwise_map]
      exact sound.compatible.imp fun compatible => compatible.ids
    exact List.pairwise_map.mp apart
  readBack slot member requested := by
    obtain ⟨spec, described, presents⟩ := exists_spec_of_slot member
    rw [presents]
    exact (sound.wellFormed spec described).classify_line_eq requested

end Settings

namespace Config

/-- The loaders that go with a decoder let only descriptions through that can be addressed by their
keys.  A text whose description breaks a rule is refused with the fault that was found, whichever of
the loaders it is given to. -/
structure Guard (decode : String → Except Yaml.DecodeError Config)
    (parse : String → Except ParseError Config)
    (load
      : (AttrPath → Except StoreError String) → ConfigSource → Except LoadError Config)
    : Prop where
  parsed
    : ∀ text config, parse text = .ok config → (Settings.ofConfig config).AddressUniquely config
  loaded
    : ∀ readFile source config,
        load readFile source = .ok config → (Settings.ofConfig config).AddressUniquely config
  refused
    : ∀ text config,
        decode text = .ok config
        → ¬ config.Sound
        → ∃ fault,
            config.validate = .error fault
            ∧ parse text = .error (.fault fault)
            ∧ ∀ readFile (source : ConfigSource),
                source.text? readFile = some text
                → load readFile source = .error (.invalid source (.fault fault))

/-- Whatever the decoder returns, validation guards what is loaded. -/
theorem guard_by (decode : String → Except Yaml.DecodeError Config)
    : Guard decode (parseBy decode) (loadBy decode) where
  parsed text config returned :=
    Settings.addressUniquely (validate_eq_ok_iff.mp (parseBy_eq_ok_iff.mp returned).2)
  loaded readFile source config returned := by
    obtain ⟨text, -, -, valid⟩ := loadBy_eq_ok_iff.mp returned
    exact Settings.addressUniquely (validate_eq_ok_iff.mp valid)
  refused text config decoded unsound := by
    obtain ⟨fault, found⟩ := exists_fault_of_unsound unsound
    have refused : parseBy decode text = .error (.fault fault) := by
      rw [parseBy_of_decoded decoded, found]
    refine ⟨fault, found, refused, fun readFile source held => ?_⟩
    rw [loadBy_eq_parseFrom held, parseFrom, refused]
    rfl

/-- Whatever one of the loaders returns can be addressed by its keys, and no text of a faulty
description gets through one.  Nothing of this depends on how texts are decoded. -/
theorem loaded_addresses_uniquely
    : (∀ decode, Guard decode (parseBy decode) (loadBy decode)) ∧ Guard ofText parse load :=
  ⟨guard_by, guard_by ofText⟩

/-- The settings of a house know its fan and its lamp by their keys, and none of them by its title.
The house is refused with one notification id for both, and the fan with one token for both of its
states. -/
theorem house_addresses_uniquely
    : let text :=
        "device: \x7bname: A, toggles: ["
          ++ "\x7bkey: fan, title: F, path: /f, enabled_token: y, disabled_token: n, "
          ++ "notification: \x7bid: 1, title: T, body: B\x7d\x7d, "
          ++ "\x7bkey: lamp, title: L, path: /l, enabled_token: y, disabled_token: n, "
          ++ "notification: \x7bid: 2, title: T, body: B\x7d\x7d]\x7d"
      let faulty :=
        "device: \x7bname: A, toggles: ["
          ++ "\x7bkey: fan, title: F, path: /f, enabled_token: y, disabled_token: y\x7d]\x7d"
      let fan : ToggleSpec := ⟨"fan", "F", ⟨"/f"⟩, ⟨"y", "n"⟩, some ⟨1, "T", "B", "device_settings"⟩⟩
      let lamp (id : UInt32) : ToggleSpec :=
        ⟨"lamp", "L", ⟨"/l"⟩, ⟨"y", "n"⟩, some ⟨id, "T", "B", "device_settings"⟩⟩
      let house (id : UInt32) : Config := ⟨"A", .log, [fan, lamp id]⟩
      parse text = .ok (house 2)
      ∧ (Settings.ofConfig (house 2)).Presents "fan" fan
      ∧ (Settings.ofConfig (house 2)).Presents "lamp" (lamp 2)
      ∧ (Settings.ofConfig (house 2)).Lacks "F"
      ∧ parseBy (fun _ => .ok (house 1)) text = .error (.fault (.usedId 1 "lamp"))
      ∧ parse faulty = .error (.fault (.equalTokens "fan" "y")) := by
  intro text faulty fan lamp house
  have decoded : ofText text = .ok (house 2) := by
    dsimp only [text, house, fan, lamp, ofText]
    -- Only the reading of the tree needs unfolding by equations; its decoding is plain recursion.
    set_option maxRecDepth 20000 in conv => lhs; arg 1; cbv
    rfl
  have returned : parse text = .ok (house 2) := parseBy_eq_ok_iff.mpr ⟨decoded, by decide⟩
  have address := loaded_addresses_uniquely.2.parsed text _ returned
  have presents (spec : ToggleSpec) (member : spec ∈ (house 2).toggles)
      : (Settings.ofConfig (house 2)).Presents spec.key spec := by
    obtain ⟨other, -, -, alone, presents⟩ := address.known spec.key (by
      rw [address.keys_eq]
      exact List.mem_map_of_mem member)
    rwa [← alone spec member rfl] at presents
  refine ⟨returned, presents fan (by simp [house]), presents (lamp 2) (by simp [house]),
    address.unknown "F" (by decide), ?crowded, ?ambiguous⟩
  case crowded =>
    have found : (house 1).validate = .error (.usedId 1 "lamp") := by decide
    have unsound : ¬ (house 1).Sound := by
      rw [← validate_eq_ok_iff, found]
      simp
    obtain ⟨fault, checked, refused, -⟩ :=
      (loaded_addresses_uniquely.1 fun _ => .ok (house 1)).refused text _ rfl unsound
    obtain rfl : fault = .usedId 1 "lamp" := by simpa [found] using checked.symm
    exact refused
  case ambiguous =>
    let config : Config := ⟨"A", .log, [⟨"fan", "F", ⟨"/f"⟩, ⟨"y", "y"⟩, none⟩]⟩
    have decoded : ofText faulty = .ok config := by
      dsimp only [faulty, config, ofText]
      set_option maxRecDepth 20000 in conv => lhs; arg 1; cbv
      rfl
    have found : config.validate = .error (.equalTokens "fan" "y") := by decide
    have unsound : ¬ config.Sound := by
      rw [← validate_eq_ok_iff, found]
      simp
    obtain ⟨fault, checked, refused, -⟩ :=
      loaded_addresses_uniquely.2.refused _ config decoded unsound
    obtain rfl : fault = .equalTokens "fan" "y" := by simpa [found] using checked.symm
    exact refused

end Config

end ModeSwitch
