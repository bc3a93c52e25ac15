import ModeSwitch.Proofs.Settings.Registers

/-! The effects of changes on a recording device.

What a change comes to can be told from the description and the store: how it ends, the write that
goes through if one does, and the notices that the recorder receives.  Changes in turn apply their
effects one after another, whatever the driver is told to do.
-/

namespace ModeSwitch

open Procedure RecordingDevice

structure Effect where
  ending : Ending (Except ChangeError Outcome)
  /-- The write that goes through. -/
  write? : Option (AttrPath × String)
  notices : List NotifierCall

namespace Effect

def only (ending : Ending (Except ChangeError Outcome)) : Effect :=
  ⟨ending, none, []⟩

def applyToStore (effect : Effect) (store : MemoryStore) : MemoryStore :=
  match effect.write? with
  | none => store
  | some (path, line) => store.accepting path line

/-- The device after an effect: the store takes the write, and the recorder receives the notices. -/
def apply (effect : Effect) (device : RecordingDevice) : RecordingDevice :=
  receiving ⟨effect.applyToStore device.store, device.notifier⟩ effect.notices

end Effect

/-- The effect of setting a described toggle, which depends on how the store takes the write and on
what it shows afterwards. -/
def ToggleSpec.effect (spec : ToggleSpec) (requested : State) (store : MemoryStore) : Effect :=
  if store.panicking then .only .panicked
  else if store.behaviour = .fail ∨ store.holds spec.path = false then
    .only (.finished (.error (.notWritten ⟨spec.path, .noAttribute⟩)))
  else
    let line := spec.tokens.line requested
    let observed := (Toggle.ofSpec spec).observe (store.accepting spec.path line)
    ⟨.finished (.ok ⟨requested, observed⟩), some (spec.path, line),
      (Toggle.ofSpec spec).notices observed⟩

namespace Config

variable (config : Config)

def effect (call : String × State) (store : MemoryStore) : Effect :=
  match config.toggles.find? (·.key = call.1) with
  | none => .only (.finished (.error (.unknownToggle call.1)))
  | some spec => spec.effect call.2 store

def effectsInTurn : List (String × State) → RecordingDevice → List Effect
  | [], _ => []
  | call :: calls, device =>
      let effect := config.effect call device.store
      effect :: effectsInTurn calls (effect.apply device)

end Config

def RecordingDevice.after (device : RecordingDevice) (effects : List Effect) : RecordingDevice :=
  effects.foldl (fun device effect => effect.apply device) device

/-! ## What an effect consists of -/

/-- The notices of a toggle are about its notification. -/
theorem Toggle.id_of_mem_notices {toggle : Toggle} {observed : State} {call : NotifierCall}
    (member : call ∈ toggle.notices observed)
    : ∃ n, toggle.notification = some n ∧ call.id = n.id := by
  cases shows : toggle.notification with
  | none => simp [notices, shows] at member
  | some n =>
      simp only [notices, shows, List.mem_cons] at member
      rcases member with rfl | posted
      · exact ⟨n, rfl, rfl⟩
      · split at posted
        · obtain rfl := List.mem_singleton.mp posted
          exact ⟨n, rfl, rfl⟩
        · cases posted

namespace ToggleSpec

variable {spec : ToggleSpec} {requested : State} {store : MemoryStore}

/-- The write of an effect is that of the toggle. -/
theorem write?_effect {write : AttrPath × String}
    (made : (spec.effect requested store).write? = some write)
    : write = (spec.path, spec.tokens.line requested) := by
  unfold effect at made
  split at made
  · cases made
  · split at made
    · cases made
    · exact (Option.some.inj made).symm

/-- The notices of an effect are about the notification of the toggle. -/
theorem id_of_mem_notices_effect {call : NotifierCall}
    (member : call ∈ (spec.effect requested store).notices)
    : ∃ n, spec.notification = some n ∧ call.id = n.id := by
  unfold effect at member
  split at member
  · cases member
  · split at member
    · cases member
    · exact Toggle.id_of_mem_notices member

/-- An effect ends well exactly if a write goes through. -/
theorem succeeded_effect
    : (spec.effect requested store).ending.succeeded
      = (spec.effect requested store).write?.isSome := by
  unfold effect
  split
  · rfl
  · split <;> rfl

end ToggleSpec

namespace Config

variable {config : Config} {call : String × State} {store : MemoryStore}

/-- An effect that does more than end is that of a described toggle. -/
theorem effect_cases (config : Config) (call : String × State) (store : MemoryStore)
    : (∃ ending, config.effect call store = .only ending)
      ∨ ∃ spec ∈ config.toggles,
          spec.key = call.1 ∧ config.effect call store = spec.effect call.2 store := by
  unfold effect
  cases found : config.toggles.find? (·.key = call.1) with
  | none => exact .inl ⟨_, rfl⟩
  | some spec =>
      exact .inr ⟨spec, List.mem_of_find?_eq_some found, by simpa using List.find?_some found, rfl⟩

variable (config) in
/-- A write goes through exactly if the change ends well, and it is the one that the change asks
for. -/
theorem writesOf_effect
    : config.writesOf [call] [(config.effect call store).ending]
      = (config.effect call store).write?.toList := by
  unfold effect writesOf succeededCalls write?
  cases found : config.toggles.find? (·.key = call.1) with
  | none => simp [Effect.only, Ending.succeeded]
  | some spec =>
      cases made : (spec.effect call.2 store).write? with
      | none => simp [spec.succeeded_effect, made]
      | some write => simp [spec.succeeded_effect, made, found, spec.write?_effect made]

/-- The store records the write of an effect. -/
theorem writes_apply (effect : Effect) (device : RecordingDevice)
    : (effect.apply device).store.writes = device.store.writes ++ effect.write?.toList := by
  unfold Effect.apply Effect.applyToStore
  cases effect.write? with
  | none => exact (List.append_nil _).symm
  | some write => rfl

/-- The store records the writes of the changes that ended well, in the order of the changes. -/
theorem writes_after (calls : List (String × State)) (device : RecordingDevice)
    : (device.after (config.effectsInTurn calls device)).store.writes
      = device.store.writes
        ++ config.writesOf calls ((config.effectsInTurn calls device).map (·.ending)) := by
  induction calls generalizing device with
  | nil => exact (List.append_nil _).symm
  | cons call calls ih =>
      have rest := ih ((config.effect call device.store).apply device)
      rw [writes_apply, ← config.writesOf_effect, List.append_assoc] at rest
      rw [effectsInTurn, List.map_cons, writesOf_cons]
      exact rest

end Config

/-! ## Changes take effect -/

namespace Settings

variable {config : Config} {locks : Locks}

/-- A change ends in its effect and leaves the device after it.  No lock stays held. -/
theorem change_takes_effect (sound : config.Sound) (call : String × State)
    (device : RecordingDevice) (free : locks.Free)
    : ∃ locks',
        locks'.Free
        ∧ (((ofConfig config).change call.1 call.2).run respond device locks).Leaves
            (config.effect call device.store).ending
            ((config.effect call device.store).apply device) locks' := by
  unfold Config.effect
  cases found : config.toggles.find? (·.key = call.1) with
  | none =>
      have unknown : (ofConfig config).slot? call.1 = none := by
        rw [slot?_eq_none_iff]
        simpa using found
      exact ⟨locks, free, by
        simpa [Effect.only, Effect.apply, Effect.applyToStore]
          using change_leaves_of_unknown unknown call.2⟩
  | some spec =>
      have named : spec.key = call.1 := by simpa using List.find?_some found
      obtain ⟨slot, known, presents⟩ := exists_slot?_of_spec sound (List.mem_of_find?_eq_some found)
      rw [named] at known
      have path_eq : slot.toggle.path = spec.path := by rw [presents]; rfl
      -- A write panics, is refused or goes through; the effect is defined by the same three cases.
      rcases device.store.takes spec.path with on | ⟨calm, refused⟩ | ⟨calm, willing, present⟩
      · have left := change_leaves_of_panicking known call.2 (free slot.lock) on
        exact ⟨_, free.poison_take slot.lock, by
          simpa [ToggleSpec.effect, on, Effect.only, Effect.apply, Effect.applyToStore] using left⟩
      · have left := change_leaves_of_refused known call.2 (free slot.lock) calm
          (path_eq.symm ▸ refused)
        exact ⟨locks, free, by
          simpa [ToggleSpec.effect, calm, refused, path_eq, Effect.only, Effect.apply,
            Effect.applyToStore] using left⟩
      · have left := change_leaves_of_accepted known call.2 (free slot.lock) calm willing
          (path_eq.symm ▸ present)
        rw [presents] at left
        exact ⟨locks, free, by
          simpa [ToggleSpec.effect, calm, willing, present, Effect.apply, Effect.applyToStore,
            Toggle.ofSpec, accepting] using left⟩

/-- Changes in turn end in their effects and leave the device after them, by induction on the
changes. -/
theorem changesInTurn_take_effect (sound : config.Sound) (calls : List (String × State))
    (device : RecordingDevice) (free : locks.Free)
    : let course := (ofConfig config).changesInTurn calls device locks
      let effects := config.effectsInTurn calls device
      course.endings = effects.map (·.ending) ∧ course.state = device.after effects := by
  induction calls generalizing device locks with
  | nil => exact ⟨rfl, rfl⟩
  | cons call calls ih =>
      obtain ⟨locks', free', left⟩ := change_takes_effect sound call device free
      obtain ⟨endings, state⟩ := ih ((config.effect call device.store).apply device) free'
      rw [changesInTurn_cons left]
      exact ⟨congrArg (_ :: ·) endings, state⟩

end Settings

end ModeSwitch
