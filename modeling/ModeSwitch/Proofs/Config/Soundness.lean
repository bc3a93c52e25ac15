import Mathlib.Data.List.Pairwise
import ModeSwitch.Config.Validation

/-! What validation promises.

A description passes exactly when each toggle is well formed by itself and any two toggles go
together: they share neither a key nor the id of a notification.  They may share a path.
-/

namespace ModeSwitch

namespace ToggleSpec

/-- A toggle without a fault of its own. -/
structure WellFormed (spec : ToggleSpec) : Prop where
  named : Text.isBlankText spec.key = false
  enabledWord : isToken spec.tokens.enabled = true
  disabledWord : isToken spec.tokens.disabled = true
  distinct : spec.tokens.enabled ≠ spec.tokens.disabled

/-- Two toggles that may stand in one description. -/
structure Compatible (first second : ToggleSpec) : Prop where
  keys : first.key ≠ second.key
  ids
    : ∀ n m, first.notification = some n → second.notification = some m → n.id ≠ m.id

instance : Std.Symm Compatible where
  symm _ _ h := ⟨h.keys.symm, fun n m hn hm same => h.ids m n hm hn same.symm⟩

/-- An id is found to be used when an earlier toggle has a notification with it. -/
theorem usedId?_eq_none_iff {earlier : List ToggleSpec} {spec : ToggleSpec}
    : spec.usedId? earlier = none
      ↔ ∀ other ∈ earlier,
          ∀ n m, other.notification = some n → spec.notification = some m → n.id ≠ m.id := by
  unfold usedId?
  cases hspec : spec.notification with
  | none => simp
  | some m =>
      simp only [ite_eq_right_iff, reduceCtorEq, imp_false, List.any_eq_true, not_exists, not_and,
        Option.any_eq_true, decide_eq_true_eq, Option.some.injEq]
      constructor
      · intro h other member n m' found same
        subst same
        exact h other member n found
      · intro h other member n found
        exact h other member n m found rfl

/-- A toggle has no fault after others when it is well formed and goes together with each. -/
theorem fault?_eq_none_iff {earlier : List ToggleSpec} {spec : ToggleSpec}
    : spec.fault? earlier = none
      ↔ spec.WellFormed ∧ ∀ other ∈ earlier, other.Compatible spec := by
  have keys : spec.keyIsUsed earlier = false ↔ ∀ other ∈ earlier, other.key ≠ spec.key := by
    simp [keyIsUsed]
  unfold fault?
  constructor
  · intro h
    -- The faults are looked for one after another, and none of them is found.
    split at h
    · cases h
    · split at h
      · cases h
      · split at h
        · cases h
        · split at h
          · cases h
          · split at h
            · cases h
            · rename_i named unused enabled disabled distinct
              have ids := usedId?_eq_none_iff.mp (Option.map_eq_none_iff.mp h)
              refine ⟨⟨by simpa using named, by simpa using enabled, by simpa using disabled,
                distinct⟩, fun other member => ⟨?_, ids other member⟩⟩
              exact keys.mp (by simpa using unused) other member
  · rintro ⟨formed, compatible⟩
    have unused := keys.mpr fun other member => (compatible other member).keys
    have ids := usedId?_eq_none_iff.mpr fun other member => (compatible other member).ids
    simp [formed.named, formed.enabledWord, formed.disabledWord, formed.distinct, unused, ids]

end ToggleSpec

namespace Config

structure Sound (config : Config) : Prop where
  wellFormed : ∀ spec ∈ config.toggles, spec.WellFormed
  compatible : config.toggles.Pairwise ToggleSpec.Compatible

/-- No fault is found after the toggles `earlier` when the rest is without a fault and goes together
with them, by induction on the rest. -/
theorem firstFault?_eq_none_iff {earlier rest : List ToggleSpec}
    : firstFault? earlier rest = none
      ↔ (∀ spec ∈ rest, spec.WellFormed)
        ∧ rest.Pairwise ToggleSpec.Compatible
        ∧ ∀ other ∈ earlier, ∀ spec ∈ rest, other.Compatible spec := by
  induction rest generalizing earlier with
  | nil => simp [firstFault?]
  | cons spec rest ih =>
      simp only [firstFault?, Option.or_eq_none_iff, ToggleSpec.fault?_eq_none_iff, ih,
        List.pairwise_cons, List.mem_append, List.mem_cons, List.not_mem_nil, or_false]
      constructor
      · rintro ⟨⟨formed, before⟩, rests, pairs, beside⟩
        refine ⟨?_, ⟨fun s hs => beside spec (.inr rfl) s hs, pairs⟩, ?_⟩
        · rintro s (rfl | hs)
          · exact formed
          · exact rests s hs
        · rintro other hother s (rfl | hs)
          · exact before other hother
          · exact beside other (.inl hother) s hs
      · rintro ⟨formed, ⟨head, pairs⟩, beside⟩
        refine ⟨⟨formed spec (.inl rfl), fun other ho => beside other ho spec (.inl rfl)⟩,
          fun s hs => formed s (.inr hs), pairs, ?_⟩
        rintro other (ho | rfl) s hs
        · exact beside other ho s (.inr hs)
        · exact head s hs

/-- Validation passes exactly the descriptions without a fault. -/
theorem validate_eq_ok_iff {config : Config} : config.validate = .ok () ↔ config.Sound := by
  have none_iff := @firstFault?_eq_none_iff [] config.toggles
  unfold validate
  cases h : firstFault? [] config.toggles with
  | some fault =>
      simp only [h, reduceCtorEq, false_iff, not_and] at none_iff ⊢
      intro sound
      exact none_iff sound.wellFormed sound.compatible (by simp)
  | none =>
      simp only [h, true_iff] at none_iff
      exact ⟨fun _ => ⟨none_iff.1, none_iff.2.1⟩, fun _ => rfl⟩

namespace Sound

variable {config : Config}

/-- Any two toggles of a description go together. -/
theorem compatible_of_ne (sound : config.Sound) {first second : ToggleSpec}
    (hfirst : first ∈ config.toggles) (hsecond : second ∈ config.toggles) (hne : first ≠ second)
    : first.Compatible second :=
  sound.compatible.forall hfirst hsecond hne

/-- The toggle of a key is the only one with it. -/
theorem spec_eq_of_key (sound : config.Sound) {first second : ToggleSpec}
    (hfirst : first ∈ config.toggles) (hsecond : second ∈ config.toggles)
    (same : first.key = second.key)
    : first = second := by
  by_contra hne
  exact (sound.compatible_of_ne hfirst hsecond hne).keys same

/-- The toggle that shows notifications under an id is the only one that does. -/
theorem spec_eq_of_id (sound : config.Sound) {first second : ToggleSpec} {n m : Notification}
    (hfirst : first ∈ config.toggles) (hsecond : second ∈ config.toggles)
    (hn : first.notification = some n) (hm : second.notification = some m) (same : n.id = m.id)
    : first = second := by
  by_contra hne
  exact (sound.compatible_of_ne hfirst hsecond hne).ids n m hn hm same

end Sound

/-- A charger with two switches over one attribute, whose path they spell in two ways, and a light. -/
def charger : Config where
  name := "charger"
  notifier := .log
  toggles := [
    ⟨"fast", "Fast charging", ⟨"/sys/charge/mode"⟩, ⟨"1", "0"⟩,
      some ⟨1, "Fast charging", "The battery charges fast.", "device_settings"⟩⟩,
    ⟨"turbo", "Turbo charging", ⟨"/sys/charge//mode"⟩, ⟨"2", "0"⟩, none⟩,
    ⟨"light", "Charging light", ⟨"/sys/light"⟩, ⟨"on", "off"⟩, none⟩]

/-- Sharing an attribute is no fault. -/
theorem charger_valid : charger.validate = .ok () :=
  rfl

end Config

end ModeSwitch
