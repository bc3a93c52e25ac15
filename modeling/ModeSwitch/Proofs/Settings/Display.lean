import ModeSwitch.Proofs.Settings.Registers

/-! When the notification of a toggle tells its state.

A change brings in line the notification of its own toggle, but the line that it writes may be read
by other toggles as well.  So a notification tells the state of its toggle at all times exactly if no
other toggle shares the attribute.
-/

namespace ModeSwitch

open Procedure RecordingDevice

namespace RecordingDevice

def displays (device : RecordingDevice) (id : UInt32) : Bool :=
  ((Tray.replay device.notifier.calls).get? id).isSome

variable (device : RecordingDevice)

/-- A change decides whether the notification of its toggle is on display. -/
theorem displays_changing {spec : ToggleSpec} {n : Notification}
    (shows : spec.notification = some n) (requested : State)
    : (device.changing spec requested).displays n.id = true ↔ requested = .enabled := by
  have presented : (Toggle.ofSpec spec).notification = some n := shows
  simp only [displays, changing, receiving, accepting, Tray.replay_append,
    Toggle.get?_notices presented]
  cases requested <;> simp

/-- A change leaves every other notification as it is. -/
theorem displays_changing_of_compatible {spec other : ToggleSpec} {n : Notification}
    (apart : other.Compatible spec) (shows : spec.notification = some n) (requested : State)
    : (device.changing other requested).displays n.id = device.displays n.id := by
  have ids : ∀ m, (Toggle.ofSpec other).notification = some m → m.id ≠ n.id :=
    fun m hm => apart.ids m n hm shows
  simp only [displays, changing, receiving, accepting, Tray.replay_append,
    Toggle.get?_notices_of_ne ids]

end RecordingDevice

/-- Does the notification of a toggle, if it has one, tell the state of the toggle? -/
def ToggleSpec.ToldBy (spec : ToggleSpec) (device : RecordingDevice) : Prop :=
  ∀ n,
    spec.notification = some n
    → (device.displays n.id = true
      ↔ ((Toggle.ofSpec spec).currentState.run respond device .fresh).ending
        = .finished .enabled)

/-- Can no other toggle of the description write what a toggle reads? -/
def Config.Alone (config : Config) (store : MemoryStore) (spec : ToggleSpec) : Prop :=
  store.holds spec.path = true
  → ∀ other ∈ config.toggles, other ≠ spec → ¬ other.path.SamePlace spec.path

namespace ToggleSpec

variable {spec : ToggleSpec} {device : RecordingDevice}

/-- The state of a toggle is the one that the store shows. -/
theorem toldBy_iff
    : spec.ToldBy device
      ↔ ∀ n,
          spec.notification = some n
          → (device.displays n.id = true
            ↔ (Toggle.ofSpec spec).observe device.store = .enabled) := by
  have ending_eq :=
    ((Toggle.ofSpec spec).currentState_leaves [] device .fresh).ending_eq
  simp only [ToldBy, run, ending_eq, Ending.finished.injEq]

end ToggleSpec

namespace Config.Handles

variable {config : Config} {device later : RecordingDevice} {call : String × State}
  {ending : Ending (Except ChangeError Outcome)}

/-- One change keeps the notification of a toggle in line with its state if no other toggle can
write what it reads: a change of the toggle itself brings it in line, and any other change touches
neither. -/
theorem toldBy (h : config.Handles device call ending later) (sound : config.Sound)
    (accepts : device.store.Accepts) {spec : ToggleSpec} (member : spec ∈ config.toggles)
    (alone : config.Alone device.store spec) (told : spec.ToldBy device)
    : spec.ToldBy later := by
  cases h with
  | unknown none => exact told
  | absent absentSpec _ _ _ => exact told
  | written changed described named present =>
      rw [ToggleSpec.toldBy_iff] at told ⊢
      intro n shows
      by_cases same : changed = spec
      · subst same
        have shown : (Toggle.ofSpec changed).observe (device.changing changed call.2).store
            = call.2 :=
          Toggle.observe_ofSpec_accepting accepts (sound.wellFormed changed member) present call.2
        have displayed := device.displays_changing shows call.2
        rw [shown]
        exact displayed
      · -- A change of another toggle writes elsewhere, and it is about another id.
        have elsewhere : ¬ spec.path.SamePlace changed.path := by
          intro place
          have found : device.store.holds spec.path = true :=
            (MemoryStore.holds_congr place device.store).trans present
          exact alone found changed described same place.symm
        have shown : (Toggle.ofSpec spec).observe (device.changing changed call.2).store
            = (Toggle.ofSpec spec).observe device.store :=
          Toggle.observe_accepting_of_ne elsewhere _
        have displayed := device.displays_changing_of_compatible
          (sound.compatible_of_ne described member same) shows call.2
        rw [shown]
        exact displayed ▸ told n shows

end Config.Handles

namespace Config.Alone

variable {config : Config} {spec : ToggleSpec} {device : RecordingDevice}

/-- Which attributes are present never changes, so nobody starts to share what a toggle reads. -/
theorem of_holds {store other : MemoryStore} (h : config.Alone store spec)
    (same : ∀ path, other.holds path = store.holds path)
    : config.Alone other spec :=
  fun present => h ((same spec.path).symm.trans present)

/-- Changes in turn keep the notification of a toggle in line if no other toggle can write what it
reads, by induction on the changes. -/
theorem changesInTurn_toldBy (sound : config.Sound) (accepts : device.store.Accepts)
    (member : spec ∈ config.toggles) (alone : config.Alone device.store spec)
    (told : spec.ToldBy device) (calls : List (String × State))
    : spec.ToldBy ((Settings.ofConfig config).changesInTurn calls device .fresh).state := by
  induction calls generalizing device with
  | nil => exact told
  | cons call calls ih =>
      obtain ⟨ending, later, left, handled⟩ := Settings.change_handled sound accepts call
      rw [Settings.changesInTurn_cons left]
      exact ih (handled.accepts accepts) (alone.of_holds handled.holds)
        (handled.toldBy sound accepts member alone told)

end Config.Alone

namespace Settings

variable {config : Config} {spec other : ToggleSpec} {store : MemoryStore}

/-- The first of some changes in turn, if its attribute is present. -/
theorem changesInTurn_changing (sound : config.Sound) {device : RecordingDevice}
    (accepts : device.store.Accepts) (member : spec ∈ config.toggles)
    (present : device.store.holds spec.path = true) (requested : State)
    (calls : List (String × State))
    : ((ofConfig config).changesInTurn ((spec.key, requested) :: calls) device .fresh).state
      = ((ofConfig config).changesInTurn calls (device.changing spec requested) .fresh).state := by
  rw [changesInTurn_cons (change_leaves_written sound accepts member present requested)]

/-- A toggle that shares a present attribute is turned on.  If the notification of the other one
still tells its state, it was on display before exactly if both have the same enabled token. -/
theorem displays_iff_of_toldBy (sound : config.Sound) {device : RecordingDevice}
    (accepts : device.store.Accepts) (member : spec ∈ config.toggles)
    (shares : other ∈ config.toggles) (hne : other ≠ spec)
    (same : other.path.SamePlace spec.path) (present : device.store.holds spec.path = true)
    {n : Notification} (shows : spec.notification = some n)
    (told : spec.ToldBy (device.changing other .enabled))
    : device.displays n.id = true ↔ other.tokens.enabled = spec.tokens.enabled := by
  have apart := sound.compatible_of_ne shares member hne
  have place : (Toggle.ofSpec spec).path.SamePlace other.path := same.symm
  have shown : (Toggle.ofSpec spec).observe (device.changing other .enabled).store
      = (spec.tokens.classify (other.tokens.line .enabled)).state :=
    Toggle.observe_accepting accepts place present _
  have word := (sound.wellFormed other shares).enabledWord
  rw [← device.displays_changing_of_compatible apart shows .enabled,
    (ToggleSpec.toldBy_iff.mp told) n shows, shown]
  exact spec.tokens.classify_line_eq_enabled_iff word

/-- Another toggle that shares a present attribute can bring a notification out of line.  If it has
the same enabled token, turning it on turns the toggle on without a notification; otherwise turning
it on after the toggle turns the toggle off and leaves the notification. -/
theorem exists_calls_not_toldBy (sound : config.Sound) (accepts : store.Accepts)
    (member : spec ∈ config.toggles) (shares : other ∈ config.toggles) (hne : other ≠ spec)
    (same : other.path.SamePlace spec.path) (present : store.holds spec.path = true)
    {n : Notification} (shows : spec.notification = some n)
    : ∃ calls,
        ¬ spec.ToldBy
          ((ofConfig config).changesInTurn calls ⟨store, .fresh false⟩ .fresh).state := by
  have present' : store.holds other.path = true :=
    (MemoryStore.holds_congr same store).trans present
  let start : RecordingDevice := ⟨store, .fresh false⟩
  -- Either word of the other toggle serves: one turns the toggle on, the other one turns it off.
  by_cases tokens : other.tokens.enabled = spec.tokens.enabled
  · refine ⟨[(other.key, .enabled)], fun told => ?_⟩
    rw [changesInTurn_changing sound accepts shares present'] at told
    have displayed : start.displays n.id = true :=
      (displays_iff_of_toldBy sound accepts member shares hne same present shows told).mpr tokens
    cases displayed
  · refine ⟨[(spec.key, .enabled), (other.key, .enabled)], fun told => ?_⟩
    let enabled := start.changing spec .enabled
    have holds_eq : ∀ path, enabled.store.holds path = store.holds path :=
      fun path => store.holds_accepting spec.path path _
    have accepts' : enabled.store.Accepts := accepts.after_write _ _
    rw [changesInTurn_changing sound accepts member present,
      changesInTurn_changing sound accepts' shares ((holds_eq _).trans present')] at told
    have displayed := displays_iff_of_toldBy sound accepts' member shares hne same
      ((holds_eq _).trans present) shows told
    exact tokens (displayed.mp ((start.displays_changing shows .enabled).mpr rfl))

/-- The notifications of a sound description tell the states of their toggles after every sequence of
changes exactly if no toggle with a notification shares a present attribute with another toggle.
Nothing is on display at first, and no toggle with a notification is on. -/
theorem told_after_all_changes_iff (valid : config.validate = .ok ()) (accepts : store.Accepts)
    (off
      : ∀ spec ∈ config.toggles,
          spec.notification.isSome = true
          → ((Toggle.ofSpec spec).currentState.run respond ⟨store, .fresh false⟩ .fresh).ending
            ≠ .finished .enabled)
    : (∀ calls,
        ∀ spec ∈ config.toggles,
          spec.ToldBy
            ((ofConfig config).changesInTurn calls ⟨store, .fresh false⟩ .fresh).state)
      ↔ ∀ spec ∈ config.toggles, spec.notification.isSome = true → config.Alone store spec := by
  have sound := Config.validate_eq_ok_iff.mp valid
  constructor
  · intro told spec member notifies present other shares hne same
    obtain ⟨n, shows⟩ := Option.isSome_iff_exists.mp notifies
    obtain ⟨calls, untold⟩ :=
      exists_calls_not_toldBy sound accepts member shares hne same present shows
    exact untold (told calls spec member)
  · intro alone calls spec member n shows
    have notifies : spec.notification.isSome = true := by simp [shows]
    have toldFirst : spec.ToldBy ⟨store, .fresh false⟩ := by
      intro m _
      have undisplayed : displays ⟨store, .fresh false⟩ m.id = false := rfl
      simpa [undisplayed] using off spec member notifies
    exact Config.Alone.changesInTurn_toldBy sound accepts member (alone spec member notifies)
      toldFirst calls n shows

/-- Without its second switch over one attribute, no two toggles of the charger share anything.  So the
notification tells the state of the first switch at all times, whatever becomes of the light; it is on
display once both are on. -/
theorem charger_without_turbo_told_after_all_changes
    : let config := { Config.charger with toggles := Config.charger.toggles.eraseIdx 1 }
      let course (calls : List (String × State)) :=
        (ofConfig config).changesInTurn calls ⟨.charger, .fresh false⟩ .fresh
      config.toggles.map (·.key) = ["fast", "light"]
      ∧ config.validate = .ok ()
      ∧ MemoryStore.charger.Accepts
      ∧ (∀ calls, ∀ spec ∈ config.toggles, spec.ToldBy (course calls).state)
      ∧ (course [("fast", .enabled), ("light", .enabled)]).state.displays 1 = true := by
  intro config course
  have valid : config.validate = .ok () := rfl
  have off : ∀ spec ∈ config.toggles, spec.notification.isSome = true →
      ((Toggle.ofSpec spec).currentState.run respond ⟨.charger, .fresh false⟩ .fresh).ending
        ≠ .finished .enabled := by
    decide +kernel
  have apart : ∀ spec ∈ config.toggles, ∀ other ∈ config.toggles, other ≠ spec →
      ¬ other.path.SamePlace spec.path := by
    decide +kernel
  refine ⟨rfl, valid, MemoryStore.charger_accepts, ?_, by decide +kernel⟩
  refine (told_after_all_changes_iff valid MemoryStore.charger_accepts off).mpr ?_
  exact fun spec member _ _ => apart spec member

/-- On a charger with two switches over one attribute the notification stays on display when the
second switch turns the first one off, although nothing was on display and on at first. -/
theorem charger_displays_switch_that_is_off
    : let start : RecordingDevice := ⟨.charger, .fresh false⟩
      let course := (ofConfig .charger).changesInTurn [("fast", .enabled), ("turbo", .enabled)]
        start .fresh
      Config.charger.validate = .ok ()
      ∧ MemoryStore.charger.Accepts
      ∧ (∀ spec ∈ Config.charger.toggles,
          spec.notification.isSome = true
          → ((Toggle.ofSpec spec).currentState.run respond start .fresh).ending
            ≠ .finished .enabled)
      ∧ ∃ spec ∈ Config.charger.toggles, ¬ spec.ToldBy course.state := by
  intro start course
  have off : ∀ spec ∈ Config.charger.toggles, spec.notification.isSome = true →
      ((Toggle.ofSpec spec).currentState.run respond start .fresh).ending
        ≠ .finished .enabled := by
    decide +kernel
  refine ⟨Config.charger_valid, MemoryStore.charger_accepts, off, _, List.mem_cons_self, ?_⟩
  intro told
  have displayed : course.state.displays 1 = true := by decide +kernel
  have reads := (told _ rfl).mp displayed
  revert reads
  decide +kernel

end Settings

end ModeSwitch
