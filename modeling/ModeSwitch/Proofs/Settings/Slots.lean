import Mathlib.Data.List.Basic
import ModeSwitch.Proofs.Config.Soundness
import ModeSwitch.Settings

/-! The slots of described settings.

Every slot presents one described toggle, and every described toggle has a slot.  Two slots have the
same lock exactly when their paths name the same place; in a sound description a key leads to one
slot only.
-/

namespace ModeSwitch.Settings

/-- Asking for the lock of a place keeps the numbers given out before, and the number of the place
is where it stands among the known ones. -/
theorem lockOf_eq (known : List Place) (place : Place)
    : known <+: (lockOf known place).2
      ∧ place ∈ (lockOf known place).2
      ∧ (lockOf known place).1 = (lockOf known place).2.idxOf place := by
  unfold lockOf
  cases h : known.idxOf? place with
  | some lock =>
      have member : place ∈ known := List.isSome_idxOf?.mp (by simp [h])
      exact ⟨List.prefix_rfl, member, by simp [List.idxOf_eq_getD_idxOf?, h]⟩
  | none =>
      have fresh : place ∉ known := List.idxOf?_eq_none_iff.mp h
      exact ⟨List.prefix_append .., by simp, by simp [List.idxOf_append, fresh]⟩

/-- The places that have locks once the specifications have their slots, when the places `known` had
locks before.  The number of a lock is where its place stands. -/
def lockTable (known : List Place) : List ToggleSpec → List Place
  | [] => known
  | spec :: rest => lockTable (lockOf known spec.path.place).2 rest

/-- No lock is taken back. -/
theorem prefix_lockTable (known : List Place) (specs : List ToggleSpec)
    : known <+: lockTable known specs := by
  induction specs generalizing known with
  | nil => exact List.prefix_rfl
  | cons spec rest ih => exact (lockOf_eq known spec.path.place).1.trans (ih _)

/-- All slots take their locks from the table of all places. -/
theorem lock_eq_idxOf {known : List Place} {specs : List ToggleSpec} {slot : Slot}
    (h : slot ∈ slotsFrom known specs)
    : slot.toggle.path.place ∈ lockTable known specs
      ∧ slot.lock = (lockTable known specs).idxOf slot.toggle.path.place := by
  induction specs generalizing known with
  | nil => cases h
  | cons spec rest ih =>
      rcases List.mem_cons.mp h with rfl | later
      · obtain ⟨-, member, number⟩ := lockOf_eq known spec.path.place
        obtain ⟨more, table⟩ := prefix_lockTable (lockOf known spec.path.place).2 rest
        rw [lockTable, ← table]
        exact ⟨List.mem_append_left _ member, number.trans (List.idxOf_append_of_mem member).symm⟩
      · exact ih later

/-- Whatever is shown of titles and toggles, the slots show it of the described toggles in their
order. -/
theorem map_slotsFrom {β : Type} (view : String → Toggle → β) (known : List Place)
    (specs : List ToggleSpec)
    : (slotsFrom known specs).map (fun slot => view slot.title slot.toggle)
      = specs.map fun spec => view spec.title (.ofSpec spec) := by
  induction specs generalizing known with
  | nil => rfl
  | cons spec rest ih => exact congrArg (_ :: ·) (ih _)

variable {config : Config}

/-- The slots present the toggles of the description in their order. -/
theorem toggles_ofConfig (config : Config)
    : (ofConfig config).slots.map (·.toggle) = config.toggles.map .ofSpec :=
  map_slotsFrom (fun _ toggle => toggle) [] config.toggles

/-- Two slots have the same lock exactly when their paths name the same place. -/
theorem lock_eq_iff {first second : Slot} (hfirst : first ∈ (ofConfig config).slots)
    (hsecond : second ∈ (ofConfig config).slots)
    : first.lock = second.lock ↔ first.toggle.path.SamePlace second.toggle.path := by
  obtain ⟨member, number⟩ := lock_eq_idxOf hfirst
  obtain ⟨-, number'⟩ := lock_eq_idxOf hsecond
  rw [number, number', List.idxOf_inj member]
  rfl

/-- A slot presents a described toggle. -/
theorem exists_spec_of_slot {slot : Slot} (h : slot ∈ (ofConfig config).slots)
    : ∃ spec ∈ config.toggles, slot.toggle = .ofSpec spec := by
  have member : slot.toggle ∈ (ofConfig config).slots.map (·.toggle) := List.mem_map_of_mem h
  rw [toggles_ofConfig] at member
  obtain ⟨spec, hspec, same⟩ := List.mem_map.mp member
  exact ⟨spec, hspec, same.symm⟩

/-- A described toggle has a slot. -/
theorem exists_slot_of_spec {spec : ToggleSpec} (h : spec ∈ config.toggles)
    : ∃ slot ∈ (ofConfig config).slots, slot.toggle = .ofSpec spec := by
  have member : Toggle.ofSpec spec ∈ (ofConfig config).slots.map (·.toggle) := by
    rw [toggles_ofConfig]
    exact List.mem_map_of_mem h
  exact List.mem_map.mp member

/-- The slot that a key leads to has that key. -/
theorem slot?_eq_some {settings : Settings} {key : String} {slot : Slot}
    (h : settings.slot? key = some slot)
    : slot ∈ settings.slots ∧ slot.toggle.name = key :=
  ⟨List.mem_of_find?_eq_some h, by simpa using List.find?_some h⟩

/-- A key leads to no slot exactly when no described toggle has it. -/
theorem slot?_eq_none_iff {key : String}
    : (ofConfig config).slot? key = none ↔ ∀ spec ∈ config.toggles, spec.key ≠ key := by
  simp only [slot?, List.find?_eq_none, decide_eq_true_eq]
  constructor
  · intro h spec hspec
    obtain ⟨slot, hslot, same⟩ := exists_slot_of_spec hspec
    have := h slot hslot
    rwa [same] at this
  · intro h slot hslot
    obtain ⟨spec, hspec, same⟩ := exists_spec_of_slot hslot
    rw [same]
    exact h spec hspec

/-- In a sound description the key of a toggle leads to a slot of that toggle. -/
theorem exists_slot?_of_spec (sound : config.Sound) {spec : ToggleSpec}
    (h : spec ∈ config.toggles)
    : ∃ slot, (ofConfig config).slot? spec.key = some slot ∧ slot.toggle = .ofSpec spec := by
  cases hslot : (ofConfig config).slot? spec.key with
  | none => exact (slot?_eq_none_iff.mp hslot spec h rfl).elim
  | some slot =>
      obtain ⟨member, name⟩ := slot?_eq_some hslot
      obtain ⟨other, hother, same⟩ := exists_spec_of_slot member
      have keys : other.key = spec.key := by rwa [same] at name
      exact ⟨slot, rfl, by rw [same, sound.spec_eq_of_key hother h keys]⟩

/-- In a sound description a slot has the title of the toggle that it presents. -/
theorem title_eq_of_presents (sound : config.Sound) {slot : Slot}
    (hslot : slot ∈ (ofConfig config).slots) {spec : ToggleSpec} (member : spec ∈ config.toggles)
    (presents : slot.toggle = .ofSpec spec)
    : slot.title = spec.title := by
  have shown : (slot.title, slot.toggle) ∈ (slotsFrom [] config.toggles).map fun slot =>
      (slot.title, slot.toggle) :=
    List.mem_map_of_mem hslot
  rw [map_slotsFrom Prod.mk] at shown
  obtain ⟨other, described, same⟩ := List.mem_map.mp shown
  obtain ⟨title, toggle⟩ := Prod.mk.inj same
  have keys : other.key = spec.key := congrArg Toggle.name (toggle.trans presents)
  rw [← title, sound.spec_eq_of_key described member keys]

/-- The toggle of a key is described. -/
theorem exists_spec_of_toggle? {key : String} {toggle : Toggle}
    (known : (ofConfig config).toggle? key = some toggle)
    : ∃ spec ∈ config.toggles, spec.key = key ∧ toggle = .ofSpec spec := by
  obtain ⟨slot, found, rfl⟩ := Option.map_eq_some_iff.mp known
  obtain ⟨member, name⟩ := slot?_eq_some found
  obtain ⟨spec, described, presents⟩ := exists_spec_of_slot member
  exact ⟨spec, described, by rw [← name, presents]; rfl, presents⟩

/-- In a sound description the key of a toggle leads to it. -/
theorem toggle?_of_spec (sound : config.Sound) {spec : ToggleSpec}
    (member : spec ∈ config.toggles)
    : (ofConfig config).toggle? spec.key = some (.ofSpec spec) := by
  obtain ⟨slot, found, presents⟩ := exists_slot?_of_spec sound member
  simp [toggle?, found, presents]

end ModeSwitch.Settings
