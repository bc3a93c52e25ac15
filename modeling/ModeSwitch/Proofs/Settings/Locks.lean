import Mathlib.Data.List.Dedup
import Mathlib.Tactic.TFAE
import ModeSwitch.Proofs.AttrPath.Spelling
import ModeSwitch.Proofs.Settings.Slots
import ModeSwitch.Proofs.Store.Identity

/-! Locks and attributes.

The locks of a description are given out in one pass over its toggles, as attributes are put into a
store in memory one by one: a place that is new gets the next number, and any other keeps its own.  So
a lock stands for an attribute.  Two slots share their lock exactly when the store takes their paths
for one attribute, and there are as many locks as attributes.
-/

namespace ModeSwitch

namespace Settings

/-- A new place gets the next number. -/
theorem lockOf_snd (known : List Place) (place : Place)
    : (lockOf known place).2 = if place ∈ known then known else known ++ [place] := by
  unfold lockOf
  cases found : known.idxOf? place with
  | some lock =>
      have member : place ∈ known := List.isSome_idxOf?.mp (by simp [found])
      exact (if_pos member).symm
  | none => exact (if_neg (List.idxOf?_eq_none_iff.mp found)).symm

/-- Only the place that is asked for is added to the known ones. -/
theorem mem_lockOf_iff {known : List Place} {place other : Place}
    : other ∈ (lockOf known place).2 ↔ other ∈ known ∨ other = place := by
  rw [lockOf_snd]
  split
  · rename_i member
    exact (or_iff_left_of_imp fun same => same ▸ member).symm
  · rw [List.mem_append, List.mem_singleton]

/-- The places that have locks in the end are those that had one and those of the specifications. -/
theorem mem_lockTable_iff {known : List Place} {specs : List ToggleSpec} {place : Place}
    : place ∈ lockTable known specs
      ↔ place ∈ known ∨ place ∈ specs.map (·.path.place) := by
  induction specs generalizing known with
  | nil => simp [lockTable]
  | cons spec rest ih => rw [lockTable, ih, mem_lockOf_iff, List.map_cons, List.mem_cons, or_assoc]

/-- No place has two locks. -/
theorem nodup_lockTable {known : List Place} (nodup : known.Nodup) (specs : List ToggleSpec)
    : (lockTable known specs).Nodup := by
  induction specs generalizing known with
  | nil => exact nodup
  | cons spec rest ih =>
      refine ih ?_
      rw [lockOf_snd]
      split
      · exact nodup
      · rename_i fresh
        rw [← List.concat_eq_append]
        exact nodup.concat fresh

end Settings

namespace MemoryStore

theorem isSome_valueAt_iff {table : List (Place × String)} {place : Place}
    : (valueAt table place).isSome = true ↔ place ∈ table.map (·.1) := by
  simp [valueAt, List.find?_isSome]

/-- Replacing a value keeps the places in their order. -/
theorem places_replaceAt (table : List (Place × String)) (place : Place) (value : String)
    : (replaceAt table place value).map (·.1) = table.map (·.1) := by
  rw [replaceAt, List.map_map]
  refine List.map_congr_left fun entry _ => ?_
  by_cases here : entry.1 = place <;> simp [here]

/-- An attribute is put at a place as a lock is given to it. -/
theorem places_putAt (table : List (Place × String)) (place : Place) (value : String)
    : (putAt table place value).map (·.1) = (Settings.lockOf (table.map (·.1)) place).2 := by
  rw [Settings.lockOf_snd, putAt]
  by_cases member : place ∈ table.map (·.1)
  · rw [if_pos (isSome_valueAt_iff.mpr member), if_pos member, places_replaceAt]
  · rw [if_neg (isSome_valueAt_iff.not.mpr member), if_neg member, List.map_append]
    rfl

/-- The store with the attributes of toggles put there in turn. -/
def furnish (store : MemoryStore) (contents : AttrPath → String) (specs : List ToggleSpec)
    : MemoryStore :=
  specs.foldl (fun store spec => store.intervene (.put spec.path (contents spec.path))) store

/-- The attributes come to stand in the order in which their places get locks. -/
theorem places_furnish (store : MemoryStore) (contents : AttrPath → String)
    (specs : List ToggleSpec)
    : (store.furnish contents specs).files.map (·.1)
      = Settings.lockTable (store.files.map (·.1)) specs := by
  induction specs generalizing store with
  | nil => rfl
  | cons spec rest ih =>
      rw [furnish, List.foldl_cons, ← furnish, ih, Settings.lockTable, intervene, places_putAt]

end MemoryStore

namespace Settings

variable {config : Config}

/-- The locks of the slots are the numbers of the places in the table, each of them. -/
theorem exists_slot_lock_eq_iff {lock : Nat}
    : (∃ slot ∈ (ofConfig config).slots, slot.lock = lock)
      ↔ lock < (lockTable [] config.toggles).length := by
  constructor
  · rintro ⟨slot, member, rfl⟩
    obtain ⟨listed, number⟩ := lock_eq_idxOf member
    rw [number]
    exact List.idxOf_lt_length_of_mem listed
  · intro bound
    -- The place with this number is that of a toggle, whose slot has taken the number.
    have listed := List.getElem_mem bound
    obtain ⟨spec, described, same⟩ : ∃ spec ∈ config.toggles,
        spec.path.place = (lockTable [] config.toggles)[lock] := by
      simpa using mem_lockTable_iff.mp listed
    obtain ⟨slot, member, presents⟩ := exists_slot_of_spec described
    refine ⟨slot, member, ?_⟩
    have place_eq : slot.toggle.path.place = (lockTable [] config.toggles)[lock] := by
      rw [presents]
      exact same
    rw [(lock_eq_idxOf member).2, place_eq,
      (nodup_lockTable List.nodup_nil config.toggles).idxOf_getElem lock bound]

/-- There are as many locks as places that have one. -/
theorem length_locks (config : Config)
    : ((ofConfig config).slots.map (·.lock)).dedup.length
      = (lockTable [] config.toggles).length := by
  have numbers : ((ofConfig config).slots.map (·.lock)).dedup.Perm
      (List.range (lockTable [] config.toggles).length) := by
    rw [List.perm_ext_iff_of_nodup (List.nodup_dedup _) List.nodup_range]
    intro lock
    rw [List.mem_dedup, List.mem_map, exists_slot_lock_eq_iff, List.mem_range]
  rw [numbers.length_eq, List.length_range]

/-- There are as many places that have a lock as different places of toggles. -/
theorem length_places (config : Config)
    : (config.toggles.map (·.path.place)).dedup.length
      = (lockTable [] config.toggles).length := by
  have same : (config.toggles.map (·.path.place)).dedup.Perm (lockTable [] config.toggles) := by
    rw [List.perm_ext_iff_of_nodup (List.nodup_dedup _)
      (nodup_lockTable List.nodup_nil config.toggles)]
    intro place
    rw [List.mem_dedup, mem_lockTable_iff, or_iff_right (List.not_mem_nil)]
  exact same.length_eq

/-- The lock of a slot is the number under which its place stands in the table. -/
theorem lock_eq_iff_getElem? {slot : Slot} (h : slot ∈ (ofConfig config).slots) {lock : Nat}
    : slot.lock = lock
      ↔ (lockTable [] config.toggles)[lock]? = some slot.toggle.path.place := by
  obtain ⟨listed, number⟩ := lock_eq_idxOf h
  constructor
  · rintro rfl
    rw [number, List.getElem?_idxOf listed]
  · intro stands
    obtain ⟨bound, same⟩ := List.getElem?_eq_some_iff.mp stands
    rw [number, ← same, (nodup_lockTable List.nodup_nil config.toggles).idxOf_getElem lock bound]

/-- Locks stand for attributes, whatever a description asks for.  Two slots have the same lock just
when their paths name the same place: one path is a respelling of the other then, and a store takes
both for one attribute, whether it is probed, read or written.  Tidy spellings of different names are
different places.  There are as many locks as places, and as attributes in a store that is furnished
with those of the toggles; the lock of a slot is the number of its attribute there. -/
theorem locks_stand_for_attributes (config : Config) (contents : AttrPath → String)
    : let slots := (ofConfig config).slots
      let attributes := (MemoryStore.empty.furnish contents config.toggles).files
      slots.map (·.toggle) = config.toggles.map .ofSpec
      ∧ (∀ first ∈ slots,
          ∀ second ∈ slots,
            List.TFAE [
              first.lock = second.lock,
              first.toggle.path.SamePlace second.toggle.path,
              AttrPath.Respelled first.toggle.path.text.toList second.toggle.path.text.toList,
              MemoryStore.ProbedAlike first.toggle.path second.toggle.path,
              MemoryStore.ReadAlike first.toggle.path second.toggle.path,
              MemoryStore.WrittenAlike first.toggle.path second.toggle.path])
      ∧ Equivalence AttrPath.SamePlace
      ∧ (∀ rooted rooted' names names',
          AttrPath.ProperNames names
          → AttrPath.ProperNames names'
          → (AttrPath.SamePlace ⟨String.ofList (AttrPath.tidied rooted names)⟩
                ⟨String.ofList (AttrPath.tidied rooted' names')⟩
              ↔ rooted = rooted' ∧ names = names'))
      ∧ (slots.map (·.lock)).dedup.length = (config.toggles.map (·.path.place)).dedup.length
      ∧ (slots.map (·.lock)).dedup.length = attributes.length
      ∧ ∀ slot ∈ slots,
          ∀ lock,
            slot.lock = lock ↔ (attributes.map (·.1))[lock]? = some slot.toggle.path.place := by
  intro slots attributes
  have places : attributes.map (·.1) = lockTable [] config.toggles :=
    MemoryStore.places_furnish .empty contents config.toggles
  refine ⟨toggles_ofConfig config, fun first hfirst second hsecond => ?_, ?_, ?_, ?_, ?_, ?_⟩
  · -- Everything is compared with naming the same place.
    tfae_have 1 ↔ 2 := lock_eq_iff hfirst hsecond
    tfae_have 2 ↔ 3 := AttrPath.samePlace_iff_respelled
    tfae_have 2 ↔ 4 := MemoryStore.samePlace_iff_probedAlike
    tfae_have 2 ↔ 5 := MemoryStore.samePlace_iff_readAlike
    tfae_have 2 ↔ 6 := MemoryStore.samePlace_iff_writtenAlike
    tfae_finish
  · exact ⟨fun _ => rfl, Eq.symm, Eq.trans⟩
  · exact fun _ _ _ _ => AttrPath.samePlace_tidied_iff
  · rw [length_locks, length_places]
  · rw [length_locks, ← places, List.length_map]
  · rw [places]
    exact fun slot member lock => lock_eq_iff_getElem? member

/-- Of four switches two spell the path of one attribute, one has a path that begins elsewhere, and
one has a path with a step up.  There are three locks. -/
theorem detours_stand_for_attributes
    : let spec (key path : String) : ToggleSpec := ⟨key, key, ⟨path⟩, ⟨"1", "0"⟩, none⟩
      let config : Config :=
        ⟨"charger", .log,
          [spec "fast" "/sys/mode", spec "turbo" "/sys//./mode/", spec "local" "sys/mode",
            spec "detour" "/sys/../sys/mode"]⟩
      (ofConfig config).slots.map (·.lock) = [0, 0, 1, 2]
      ∧ MemoryStore.WrittenAlike ⟨"/sys/mode"⟩ ⟨"/sys//./mode/"⟩
      ∧ ¬ MemoryStore.ReadAlike ⟨"/sys/mode"⟩ ⟨"sys/mode"⟩
      ∧ ¬ AttrPath.SamePlace ⟨"/sys/../sys/mode"⟩ ⟨"/sys/mode"⟩
      ∧ (MemoryStore.empty.furnish (fun _ => "0\n") config.toggles).files.length = 3 := by
  intro spec config
  obtain ⟨-, alike, -, tidy, -, count, -⟩ := locks_stand_for_attributes config fun _ => "0\n"
  let slot (key path : String) (lock : Nat) : Slot := ⟨key, .ofSpec (spec key path), lock⟩
  have slots : (ofConfig config).slots
      = [slot "fast" "/sys/mode" 0, slot "turbo" "/sys//./mode/" 0, slot "local" "sys/mode" 1,
          slot "detour" "/sys/../sys/mode" 2] := by
    decide
  rw [slots] at alike count ⊢
  have shared := alike (slot "fast" "/sys/mode" 0) (by simp) (slot "turbo" "/sys//./mode/" 0)
    (by simp)
  have apart := alike (slot "fast" "/sys/mode" 0) (by simp) (slot "local" "sys/mode" 1) (by simp)
  refine ⟨rfl, (shared.out 0 5).mp rfl, fun same => ?_, ?_, count.symm⟩
  · exact absurd ((apart.out 0 4).mpr same) (by decide)
  · have names := tidy true true ["sys".toList, "..".toList, "sys".toList, "mode".toList]
      ["sys".toList, "mode".toList] (by decide) (by decide)
    exact fun same => absurd (names.mp same).2 (by decide)

end Settings

end ModeSwitch
