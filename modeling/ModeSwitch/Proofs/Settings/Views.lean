import Mathlib.Data.List.Nodup
import ModeSwitch.Proofs.Listing.Descriptions
import ModeSwitch.Proofs.Settings.Queries
import ModeSwitch.Proofs.Settings.Slots
import ModeSwitch.Proofs.Snapshot.Lookup

/-! What the views of a toggle show.

The list of entries, a single entry, the snapshot and the queries of the toggle itself all look at
the attribute on their own.  In a sound description they show the same, since a key leads to one
toggle and an attribute that is absent cannot be read.
-/

namespace ModeSwitch

open Procedure

section Texts

/-- Only the entry of an absent attribute is worded as unsupported. -/
theorem Entry.displayName_eq_unsupported_iff (entry : Entry)
    : entry.displayName = entry.title ++ " (unsupported)" ↔ entry.available = false := by
  unfold displayName
  cases entry.available <;> cases entry.checked <;> simp [← String.toList_inj]

/-- The filled marker ends the name of an entry that is on. -/
theorem Entry.marker_suffix_iff {entry : Entry} (available : entry.available = true)
    : ['●'] <:+ entry.displayName.toList ↔ entry.checked = .enabled := by
  unfold displayName
  cases entry.checked <;> simp [available, List.suffix_iff_eq_drop]

end Texts

namespace Slot

variable (slot : Slot) (store : MemoryStore)

/-- The entry of a slot shows what its toggle shows; an absent attribute is not read, but shows
disabled like one that cannot be read. -/
theorem entry_finds
    : store.Finds slot.entry
        ⟨slot.toggle.name, slot.title, store.holds slot.toggle.path,
          slot.toggle.observe store⟩ := by
  unfold Slot.entry Toggle.isSupported
  simp only [request, bind_eq, Procedure.bind, pure_eq_done]
  refine .probe ?_
  cases present : store.holds slot.toggle.path with
  | true =>
      exact .bind slot.toggle.currentState_queries (slot.toggle.currentState_finds store) (.done _)
  | false =>
      rw [Toggle.observe_of_absent present]
      exact .done _

/-- A slot adds its toggle to a snapshot exactly if its attribute is present. -/
theorem present?_finds
    : store.Finds slot.present?
        (if store.holds slot.toggle.path then
          some (slot.toggle.name, slot.toggle.observe store)
        else none) := by
  unfold Slot.present? Toggle.isSupported
  simp only [request, bind_eq, Procedure.bind, pure_eq_done]
  refine .probe ?_
  split
  · exact .bind slot.toggle.currentState_queries (slot.toggle.currentState_finds store) (.done _)
  · exact .done _

end Slot

namespace ToggleSpec

variable (spec : ToggleSpec) (store : MemoryStore)

/-- The entry that a store shows for a described toggle. -/
def shown : Entry :=
  ⟨spec.key, spec.title, store.holds spec.path, (Toggle.ofSpec spec).observe store⟩

/-- What a store adds to a snapshot for a described toggle. -/
def present? : Option (String × State) :=
  if store.holds spec.path then some (spec.key, (Toggle.ofSpec spec).observe store) else none

end ToggleSpec

namespace Config

variable {config : Config} {store : MemoryStore}

def presentIn (config : Config) (store : MemoryStore) : List (String × State) :=
  config.toggles.filterMap (·.present? store)

theorem mem_presentIn {key : String} {state : State}
    : (key, state) ∈ config.presentIn store
      ↔ ∃ spec ∈ config.toggles,
          store.holds spec.path = true
          ∧ spec.key = key
          ∧ (Toggle.ofSpec spec).observe store = state := by
  simp [presentIn, ToggleSpec.present?]

/-- In a sound description no key is present twice. -/
theorem Sound.nodup_presentIn (sound : config.Sound) (store : MemoryStore)
    : ((config.presentIn store).map (·.1)).Nodup := by
  rw [List.Nodup, List.pairwise_map, presentIn, List.pairwise_filterMap]
  refine sound.compatible.imp fun {first second} compatible => ?_
  rintro ⟨key, state⟩ found ⟨key', state'⟩ found'
  simp only [ToggleSpec.present?, Option.ite_none_right_eq_some, Option.some.injEq,
    Prod.mk.injEq] at found found'
  obtain ⟨-, rfl, -⟩ := found
  obtain ⟨-, rfl, -⟩ := found'
  exact compatible.keys

end Config

namespace Settings

variable (config : Config) (store : MemoryStore)

/-- The entries are those of the described toggles, in their order. -/
theorem entries_finds
    : store.Finds (ofConfig config).entries (config.toggles.map (·.shown store)) := by
  have found := MemoryStore.Finds.gather Slot.entry_queries (fun slot => slot.entry_finds store)
    (ofConfig config).slots
  rwa [ofConfig, map_slotsFrom fun title toggle =>
    (⟨toggle.name, title, store.holds toggle.path, toggle.observe store⟩ : Entry)] at found

/-- The snapshot holds the described toggles whose attributes are present. -/
theorem snapshot_finds
    : store.Finds (ofConfig config).snapshot (.ofList (config.presentIn store)) := by
  have found := MemoryStore.Finds.gather Slot.present?_queries
    (fun slot => slot.present?_finds store) (ofConfig config).slots
  rw [ofConfig, map_slotsFrom fun _ toggle =>
    if store.holds toggle.path then some (toggle.name, toggle.observe store) else none] at found
  have collected : (config.toggles.map (·.present? store)).filterMap id
      = config.presentIn store := by
    simp [Config.presentIn, List.filterMap_map]
  rw [← collected]
  exact .bind (only_gather Slot.present?_queries _) found (.done _)

variable {config}

/-- In a sound description the entry of a key is that of its toggle. -/
theorem entry_finds (sound : config.Sound) {spec : ToggleSpec} (member : spec ∈ config.toggles)
    : store.Finds ((ofConfig config).entry spec.key) (.ok (spec.shown store)) := by
  obtain ⟨slot, known, presents⟩ := exists_slot?_of_spec sound member
  have title := title_eq_of_presents sound (slot?_eq_some known).1 member presents
  have found := slot.entry_finds store
  rw [presents, title] at found
  simp only [entry, known]
  exact .bind slot.entry_queries found (.done _)

end Settings

variable {config : Config}

/-- In a sound description one toggle only has the key of a toggle. -/
theorem Config.Sound.filter_key (sound : config.Sound) {spec : ToggleSpec}
    (member : spec ∈ config.toggles)
    : config.toggles.filter (·.key = spec.key) = [spec] := by
  have distinct : config.toggles.Nodup :=
    sound.compatible.imp fun compatible same => compatible.keys (congrArg _ same)
  have single : config.toggles.filter (·.key = spec.key) = config.toggles.filter (· = spec) := by
    refine List.filter_congr fun other described => ?_
    simp only [decide_eq_decide]
    exact ⟨sound.spec_eq_of_key described member, congrArg _⟩
  rw [single, List.filter_eq, List.count_eq_one_of_mem distinct member]
  rfl

structure View where
  supported : Bool
  reading : Reading
  state : State
  entry : Entry

namespace View

/-- The view was found in a store, by the queries of a toggle and by asking for the entry of its
key. -/
structure Found (view : View) (settings : Settings) (toggle : Toggle) (store : MemoryStore)
    : Prop where
  isSupported : store.Finds toggle.isSupported view.supported
  readMode : store.Finds toggle.readMode view.reading
  currentState : store.Finds toggle.currentState view.state
  entry : store.Finds (settings.entry toggle.name) (.ok view.entry)

/-- Whatever is found of a toggle, and said about it, tells the same. -/
structure Consistent (view : View) (toggle : Toggle) (store : MemoryStore) (snapshot : Snapshot)
    : Prop where
  listed : toggle.name ∈ snapshot.keys ↔ view.supported = true
  available : view.entry.available = view.supported
  unsupported
    : view.entry.displayName = view.entry.title ++ " (unsupported)" ↔ view.supported = false
  reading_state : view.reading.state = view.state
  checked : view.entry.checked = view.state
  held : view.supported = true → snapshot.get? toggle.name = some view.state
  off_if_unsupported : view.supported = false → view.state = .disabled
  off_if_unreadable
    : ∀ cause, store.readAt toggle.path = .error cause → view.state = .disabled
  marked
    : view.supported = true
      → (['●'] <:+ view.entry.displayName.toList ↔ view.state = .enabled)
  described_on
    : (toggle.name ++ " is on (").toList <+: (toggle.describe view.reading).toList
      ↔ view.state = .enabled
  described_off
    : (toggle.name ++ " is off (").toList <+: (toggle.describe view.reading).toList
      ↔ view.state = .disabled

end View

namespace Settings

/-- What a store shows of a described toggle is consistent. -/
theorem consistent_of_spec (sound : config.Sound) {spec : ToggleSpec}
    (member : spec ∈ config.toggles) (store : MemoryStore)
    : let toggle := Toggle.ofSpec spec
      View.Consistent
        ⟨store.holds spec.path, toggle.reading store, toggle.observe store, spec.shown store⟩
        toggle store (.ofList (config.presentIn store)) := by
  intro toggle
  have once := sound.nodup_presentIn store
  -- No other toggle has the key, so the snapshot holds the state of this one under it, or none.
  have holds {state : State}
      : (Snapshot.ofList (config.presentIn store)).get? spec.key = some state
        ↔ store.holds spec.path = true ∧ toggle.observe store = state := by
    rw [Snapshot.get?_ofList_eq_some_iff once, Config.mem_presentIn]
    constructor
    · rintro ⟨other, described, present, keys, shows⟩
      obtain rfl := sound.spec_eq_of_key described member keys
      exact ⟨present, shows⟩
    · rintro ⟨present, shows⟩
      exact ⟨spec, member, present, rfl, shows⟩
  have described (state : State) := toggle.describe_begins_iff (toggle.reading store) state
  have on : toggle.name ++ " is " ++ State.enabled.word ++ " (" = toggle.name ++ " is on (" := by
    simp [State.word, ← String.toList_inj]
  have off : toggle.name ++ " is " ++ State.disabled.word ++ " (" = toggle.name ++ " is off (" := by
    simp [State.word, ← String.toList_inj]
  rw [toggle.state_reading] at described
  exact {
    listed := by
      rw [Snapshot.mem_keys_iff, Option.isSome_iff_exists]
      constructor
      · rintro ⟨_, found⟩
        exact (holds.mp found).1
      · exact fun present => ⟨_, holds.mpr ⟨present, rfl⟩⟩
    available := rfl
    unsupported := (spec.shown store).displayName_eq_unsupported_iff
    reading_state := toggle.state_reading store
    checked := rfl
    held := fun present => holds.mpr ⟨present, rfl⟩
    off_if_unsupported := fun absent : store.holds toggle.path = false =>
      Toggle.observe_of_absent absent
    off_if_unreadable := fun _ unreadable => Toggle.observe_of_unreadable unreadable
    marked := fun present : (spec.shown store).available = true => Entry.marker_suffix_iff present
    described_on := by rw [← on]; exact described .enabled
    described_off := by rw [← off]; exact described .disabled
  }

/-- In a description that passes validation all views of a toggle agree, whatever the store holds:
the entries are those of the described toggles in their order, the snapshot holds no other keys, and
for every described toggle its own entry, its entry among the others, the snapshot, the queries of
the toggle and the texts about it tell the same. -/
theorem views_agree {config : Config} (valid : config.validate = .ok ()) (store : MemoryStore)
    : let settings := ofConfig config
      ∃ entries snapshot,
        store.Finds settings.entries entries
        ∧ store.Finds settings.snapshot snapshot
        ∧ entries.map (fun entry => (entry.key, entry.title))
          = config.toggles.map (fun spec => (spec.key, spec.title))
        ∧ (∀ key ∈ snapshot.keys, ∃ spec ∈ config.toggles, spec.key = key)
        ∧ ∀ spec ∈ config.toggles, ∃ toggle, ∃ view : View,
            settings.toggle? spec.key = some toggle
            ∧ toggle.name = spec.key
            ∧ view.Found settings toggle store
            ∧ entries.filter (·.key = spec.key) = [view.entry]
            ∧ view.Consistent toggle store snapshot := by
  have sound : config.Sound := Config.validate_eq_ok_iff.mp valid
  refine ⟨_, _, entries_finds config store, snapshot_finds config store, ?_, fun key listed => ?_,
    fun spec member => ?_⟩
  · simp [ToggleSpec.shown]
  · obtain ⟨state, found⟩ := Option.isSome_iff_exists.mp (Snapshot.mem_keys_iff.mp listed)
    have present := (Snapshot.get?_ofList_eq_some_iff (sound.nodup_presentIn store)).mp found
    obtain ⟨spec, member, -, keys, -⟩ := Config.mem_presentIn.mp present
    exact ⟨spec, member, keys⟩
  · refine ⟨.ofSpec spec, _, toggle?_of_spec sound member, rfl, ?_, ?_,
      consistent_of_spec sound member store⟩
    · exact ⟨Toggle.isSupported_finds _ store, Toggle.readMode_finds _ store,
        Toggle.currentState_finds _ store, entry_finds store sound member⟩
    · rw [List.filter_map]
      exact congrArg (List.map (·.shown store)) (sound.filter_key member)

/-- A charger without its light lists all three toggles, but holds no light in its snapshot. -/
theorem charger_views_agree
    : let store := MemoryStore.charger.intervene (.remove ⟨"/sys/light"⟩)
      let settings := ofConfig .charger
      Config.charger.validate = .ok ()
      ∧ ∃ entries snapshot,
          store.Finds settings.entries entries
          ∧ store.Finds settings.snapshot snapshot
          ∧ entries.map (·.key) = ["fast", "turbo", "light"]
          ∧ "fast" ∈ snapshot.keys
          ∧ "light" ∉ snapshot.keys := by
  intro store settings
  obtain ⟨entries, snapshot, listed, held, same, -, views⟩ := views_agree Config.charger_valid store
  have keys := congrArg (List.map Prod.fst) same
  rw [List.map_map, List.map_map] at keys
  -- Whether a key is held is decided by looking at the attribute of its toggle.
  have held_iff (spec : ToggleSpec) (member : spec ∈ Config.charger.toggles)
      : spec.key ∈ snapshot.keys ↔ store.holds spec.path = true := by
    obtain ⟨toggle, view, known, name, found, -, consistent⟩ := views spec member
    rw [toggle?_of_spec (Config.validate_eq_ok_iff.mp Config.charger_valid) member] at known
    obtain rfl := Option.some.inj known
    have supported : view.supported = store.holds spec.path :=
      found.isSupported.unique (Toggle.isSupported_finds _ store)
    rw [← supported]
    exact consistent.listed
  refine ⟨Config.charger_valid, entries, snapshot, listed, held, keys, ?_, fun light => ?_⟩
  · exact (held_iff Config.charger.toggles[0] (List.getElem_mem _)).mpr (by decide +kernel)
  · have present := (held_iff Config.charger.toggles[2] (List.getElem_mem _)).mp light
    revert present
    decide +kernel

end Settings

end ModeSwitch
