import ModeSwitch.Proofs.Settings.Effects

/-! Effects at different places.

They leave the same in either order: a write is not seen at another place, and the notices of two
toggles are about different ids.  What is left differs only in the order of the records that the store
and the recorder keep.
-/

namespace ModeSwitch

namespace RecordingDevice

/-- Two devices that differ at most in the order of the writes they recorded and of the calls about
different ids. -/
structure Matches (first second : RecordingDevice) : Prop where
  store_eq : first.store.unrecorded = second.store.unrecorded
  failing_eq : first.notifier.failing = second.notifier.failing
  calls_eq
    : ∀ id, callsAbout id first.notifier.calls = callsAbout id second.notifier.calls

namespace Matches

variable {first second third : RecordingDevice}

theorem refl (device : RecordingDevice) : device.Matches device :=
  ⟨rfl, rfl, fun _ => rfl⟩

theorem trans (h : first.Matches second) (h' : second.Matches third) : first.Matches third :=
  ⟨h.store_eq.trans h'.store_eq, h.failing_eq.trans h'.failing_eq,
    fun id => (h.calls_eq id).trans (h'.calls_eq id)⟩

/-- An effect keeps devices alike but for the order of their records. -/
theorem apply (h : first.Matches second) (effect : Effect)
    : (effect.apply first).Matches (effect.apply second) := by
  refine ⟨?_, h.failing_eq, fun id => ?_⟩
  · unfold Effect.apply Effect.applyToStore
    cases effect.write? with
    | none => exact h.store_eq
    | some write =>
        exact congrArg (fun store => (store.accepting write.1 write.2).unrecorded) h.store_eq
  · simp only [Effect.apply, receiving, callsAbout_append, h.calls_eq]

/-- What a change comes to does not depend on the records. -/
theorem effect_eq (h : first.Matches second) (config : Config) (call : String × State)
    : config.effect call first.store = config.effect call second.store := by
  have unrecorded (store : MemoryStore)
      : config.effect call store.unrecorded = config.effect call store :=
    rfl
  rw [← unrecorded first.store, h.store_eq, unrecorded]

end Matches

end RecordingDevice

/-- Two effects that have nothing in common: they write at different places, and their notices are
about different ids. -/
structure Effect.Apart (first second : Effect) : Prop where
  places
    : ∀ write write',
        first.write? = some write
        → second.write? = some write'
        → ¬ write.1.SamePlace write'.1
  ids : ∀ call ∈ first.notices, ∀ call' ∈ second.notices, call.id ≠ call'.id

namespace Effect.Apart

variable {first second : Effect}

/-- Calls about different ids are the same about each in either order. -/
theorem callsAbout_comm (h : first.Apart second) (id : UInt32)
    : callsAbout id (first.notices ++ second.notices)
      = callsAbout id (second.notices ++ first.notices) := by
  rw [callsAbout_append, callsAbout_append]
  by_cases silent : callsAbout id first.notices = []
  · rw [silent, List.append_nil, List.nil_append]
  · obtain ⟨call, about⟩ := List.exists_mem_of_ne_nil _ silent
    obtain ⟨member, rfl⟩ : call ∈ first.notices ∧ call.id = id := by
      simpa [callsAbout] using about
    have none : callsAbout call.id second.notices = [] := by
      rw [callsAbout, List.filter_eq_nil_iff]
      intro call' member'
      simpa using (h.ids call member call' member').symm
    rw [none, List.append_nil, List.nil_append]

/-- Effects that are apart leave the same in either order, but for the order of the records. -/
theorem apply_comm (h : first.Apart second) (device : RecordingDevice)
    : (second.apply (first.apply device)).Matches (first.apply (second.apply device)) := by
  refine ⟨?_, rfl, fun id => ?_⟩
  · show (second.applyToStore (first.applyToStore device.store)).unrecorded
      = (first.applyToStore (second.applyToStore device.store)).unrecorded
    unfold applyToStore
    cases made : first.write? with
    | none => rfl
    | some write =>
        cases made' : second.write? with
        | none => rfl
        | some write' =>
            exact MemoryStore.accepting_comm (h.places write write' made made') device.store _ _
  · have received := congrArg (callsAbout id device.notifier.calls ++ ·) (h.callsAbout_comm id)
    simpa [apply, RecordingDevice.receiving] using received

end Effect.Apart

/-- What a toggle shows after a write to its attribute is not changed by a write to another place
before it. -/
theorem Toggle.observe_accepting_after (toggle : Toggle) {other : AttrPath}
    (elsewhere : ¬ toggle.path.SamePlace other) (store : MemoryStore) (line line' : String)
    : toggle.observe ((store.accepting other line').accepting toggle.path line)
      = toggle.observe (store.accepting toggle.path line) := by
  have exchanged := congrArg toggle.observe
    (MemoryStore.accepting_comm elsewhere store line line')
  calc toggle.observe ((store.accepting other line').accepting toggle.path line)
      = toggle.observe ((store.accepting toggle.path line).accepting other line') :=
        exchanged.symm
    _ = toggle.observe (store.accepting toggle.path line) :=
        observe_accepting_of_ne elsewhere line'

/-- What setting a toggle comes to is not changed by a write at another place before it. -/
theorem ToggleSpec.effect_accepting_of_ne {spec : ToggleSpec} {other : AttrPath}
    (elsewhere : ¬ spec.path.SamePlace other) (store : MemoryStore) (requested : State)
    (line : String)
    : spec.effect requested (store.accepting other line) = spec.effect requested store := by
  have shows : (Toggle.ofSpec spec).observe
        ((store.accepting other line).accepting spec.path (spec.tokens.line requested))
      = (Toggle.ofSpec spec).observe (store.accepting spec.path (spec.tokens.line requested)) :=
    (Toggle.ofSpec spec).observe_accepting_after elsewhere store _ line
  simp only [effect, store.holds_accepting, shows]
  rfl

namespace Config

variable (config : Config)

/-- Do two keys name toggles at the same place? -/
def Collide (first second : String) : Prop :=
  ∃ spec ∈ config.toggles, ∃ other ∈ config.toggles,
    spec.key = first ∧ other.key = second ∧ spec.path.SamePlace other.path

instance (first second : String) : Decidable (config.Collide first second) :=
  inferInstanceAs (Decidable (∃ spec ∈ config.toggles, ∃ other ∈ config.toggles, _))

variable {config} {first second : String × State}

theorem Collide.symm {first second : String} (h : config.Collide first second)
    : config.Collide second first := by
  obtain ⟨spec, member, other, member', named, named', same⟩ := h
  exact ⟨other, member', spec, member, named', named, Eq.symm same⟩

/-- The effects of changes at different places are apart: in a sound description an id belongs to one
toggle. -/
theorem effects_apart (sound : config.Sound) (elsewhere : ¬ config.Collide first.1 second.1)
    (store store' : MemoryStore)
    : (config.effect first store).Apart (config.effect second store') := by
  rcases config.effect_cases first store with ⟨ending, only⟩ | ⟨spec, member, named, effect⟩
  · rw [only]
    exact ⟨fun _ _ made => (nomatch made), fun _ member => (nomatch member)⟩
  rcases config.effect_cases second store' with ⟨ending, only⟩ | ⟨other, member', named', effect'⟩
  · rw [only]
    exact ⟨fun _ _ _ made => (nomatch made), fun _ _ _ member => (nomatch member)⟩
  have apart : ¬ spec.path.SamePlace other.path :=
    fun same => elsewhere ⟨spec, member, other, member', named, named', same⟩
  rw [effect, effect']
  refine ⟨fun write write' made made' => ?_, fun call notice call' notice' same => ?_⟩
  · rwa [spec.write?_effect made, other.write?_effect made']
  · obtain ⟨n, shows, about⟩ := spec.id_of_mem_notices_effect notice
    obtain ⟨m, shows', about'⟩ := other.id_of_mem_notices_effect notice'
    have only := sound.spec_eq_of_id member member' shows shows'
      (about.symm.trans (same.trans about'))
    exact apart (only ▸ rfl)

/-- What a change comes to is not changed by one at another place before it. -/
theorem effect_apply (elsewhere : ¬ config.Collide first.1 second.1) (device : RecordingDevice)
    : config.effect second ((config.effect first device.store).apply device).store
      = config.effect second device.store := by
  show config.effect second ((config.effect first device.store).applyToStore device.store)
    = config.effect second device.store
  rcases config.effect_cases first device.store with ⟨ending, only⟩ | ⟨spec, member, named, effect⟩
  · rw [only]
    rfl
  unfold Effect.applyToStore
  cases made : (config.effect first device.store).write? with
  | none => rfl
  | some write =>
      obtain rfl := spec.write?_effect (effect ▸ made)
      unfold Config.effect
      cases found : config.toggles.find? (·.key = second.1) with
      | none => rfl
      | some other =>
          have named' : other.key = second.1 := by simpa using List.find?_some found
          refine ToggleSpec.effect_accepting_of_ne (fun same => elsewhere ?_) device.store _ _
          exact ⟨spec, member, other, List.mem_of_find?_eq_some found, named, named', same.symm⟩

end Config

end ModeSwitch
