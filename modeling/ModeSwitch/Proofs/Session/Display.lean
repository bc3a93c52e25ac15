import ModeSwitch.Proofs.Session.Observations

/-! What a session keeps on display.

In a sound description an id belongs to one toggle.  So what is on display under the id is decided
by the state that was observed last for this toggle, whatever happened to the others.
-/

namespace ModeSwitch

/-- A later observation of the same key counts more. -/
theorem lastObserved?_cons (key : String) (state : State) (later : List (String × State))
    (other : String)
    : lastObserved? ((key, state) :: later) other
      = (lastObserved? later other).or (if key = other then some state else none) := by
  by_cases same : key = other <;>
    cases found : later.reverse.find? (·.1 = other) <;>
    simp [lastObserved?, List.find?_append, same, found]

namespace Settings

variable {config : Config}

/-- What one observation leaves under the id of a toggle's notification: only one for the toggle
itself matters, since every other toggle has another id. -/
theorem get?_notices (sound : config.Sound) {spec : ToggleSpec} {n : Notification}
    (member : spec ∈ config.toggles) (shows : spec.notification = some n) (key : String)
    (state : State) (tray : Tray)
    : (((ofConfig config).notices key state).foldl Tray.receive tray).get? n.id
      = if key = spec.key then (if state = .enabled then some n else none)
        else tray.get? n.id := by
  unfold notices
  cases known : (ofConfig config).toggle? key with
  | none =>
      have other : key ≠ spec.key := by
        rintro rfl
        rw [toggle?_of_spec sound member] at known
        cases known
      simp [other]
  | some toggle =>
      obtain ⟨found, described, rfl, rfl⟩ := exists_spec_of_toggle? known
      by_cases same : found.key = spec.key
      · obtain rfl := sound.spec_eq_of_key described member same
        have presented : (Toggle.ofSpec found).notification = some n := shows
        simpa using Toggle.get?_notices presented state tray
      · -- A toggle with the same id would be the same toggle.
        have apart : ∀ m, (Toggle.ofSpec found).notification = some m → m.id ≠ n.id := by
          intro m hm sameId
          exact same (congrArg _ (sound.spec_eq_of_id described member hm shows sameId))
        simpa [same] using Toggle.get?_notices_of_ne apart state tray

/-- What observations leave under the id of a toggle's notification, by induction on them: the last
one for the toggle decides. -/
theorem get?_noticesOf (sound : config.Sound) {spec : ToggleSpec} {n : Notification}
    (member : spec ∈ config.toggles) (shows : spec.notification = some n)
    (observations : List (String × State)) (tray : Tray)
    : (((ofConfig config).noticesOf observations).foldl Tray.receive tray).get? n.id
      = match lastObserved? observations spec.key with
        | none => tray.get? n.id
        | some state => if state = .enabled then some n else none := by
  induction observations generalizing tray with
  | nil => rfl
  | cons observation later ih =>
      obtain ⟨key, state⟩ := observation
      simp only [noticesOf, List.flatMap_cons, List.foldl_append] at ih ⊢
      rw [ih, lastObserved?_cons, get?_notices sound member shows]
      cases lastObserved? later spec.key with
      | some last => rfl
      | none => by_cases same : key = spec.key <;> simp [same]

/-- Observations leave nothing new under an id that no toggle has. -/
theorem get?_noticesOf_of_unused {id : UInt32}
    (unused : ∀ spec ∈ config.toggles, ∀ n, spec.notification = some n → n.id ≠ id)
    (observations : List (String × State)) (tray : Tray)
    : (((ofConfig config).noticesOf observations).foldl Tray.receive tray).get? id
      = tray.get? id := by
  induction observations generalizing tray with
  | nil => rfl
  | cons observation later ih =>
      simp only [noticesOf, List.flatMap_cons, List.foldl_append] at ih ⊢
      rw [ih, notices]
      split
      · rfl
      · rename_i toggle known
        obtain ⟨spec, described, -, rfl⟩ := exists_spec_of_toggle? known
        exact Toggle.get?_notices_of_ne (unused spec described) _ tray

/-- Observations never post without withdrawing first, by induction on them. -/
theorem noticesOf_replacing (settings : Settings) (observations : List (String × State))
    : Replacing (settings.noticesOf observations) := by
  induction observations with
  | nil => exact .nil
  | cons observation later ih =>
      refine Replacing.append ?_ ih
      dsimp only [notices]
      split
      · exact .nil
      · exact Toggle.notices_replacing _ _

end Settings

namespace Session

variable {config : Config}

/-- During every session that addresses the service through described toggles only, so also after
every prefix of its moves, the tray shows the notification of a toggle exactly if the latest
successful request of a state of this toggle observed it enabled.  Nothing else is on display, and
every post directly follows the withdrawal of its id.  Panics, refused writes, failing reads, a
failing service and changes from outside make no difference. -/
theorem display_follows_observations (valid : config.validate = .ok ()) (own : Option Toggle)
    (store : MemoryStore) (failing : Bool) (moves : List (Move MemoryStore.Intervention))
    (indirect : ∀ move ∈ moves, move.Indirect)
    : let surface : Surface := ⟨.ofConfig config, own⟩
      let course := (start ⟨store, .fresh failing⟩).runAll .recording surface moves
      let observations := observed moves course.1
      let calls := course.2.device.notifier.calls
      (∀ spec ∈ config.toggles,
          ∀ n,
            spec.notification = some n
            → (Tray.replay calls).get? n.id
              = if lastObserved? observations spec.key = some .enabled then some n else none)
      ∧ (∀ id,
          (∀ spec ∈ config.toggles, ∀ n, spec.notification = some n → n.id ≠ id)
          → (Tray.replay calls).get? id = none)
      ∧ Replacing calls := by
  intro surface course observations calls
  have sound := Config.validate_eq_ok_iff.mp valid
  have tracks := runAll_tracks surface (start ⟨store, .fresh failing⟩) moves indirect
    Locks.free_fresh
  have calls_eq : calls = (Settings.ofConfig config).noticesOf observations := tracks.calls_eq
  simp only [calls_eq, Tray.replay]
  refine ⟨fun spec member n shows => ?_, fun id unused => ?_, Settings.noticesOf_replacing _ _⟩
  · rw [Settings.get?_noticesOf sound member shows]
    cases lastObserved? observations spec.key <;> simp
  · exact Settings.get?_noticesOf_of_unused unused observations .empty

/-- The notification of a charger is on display when its switch was turned on, although a later
request panicked. -/
theorem charger_display_follows_observations
    : let moves : List (Move MemoryStore.Intervention) :=
        [.operate (.change "fast" .enabled), .intervene (.panicWrites true),
          .operate (.set (.keyed "fast") .disabled), .together [("turbo", .enabled)]]
      let course := (start ⟨.charger, .fresh true⟩).runAll .recording
        ⟨.ofConfig .charger, none⟩ moves
      Config.charger.validate = .ok ()
      ∧ (∀ move ∈ moves, move.Indirect)
      ∧ (Tray.replay course.2.device.notifier.calls).get? 1
        = some ⟨1, "Fast charging", "The battery charges fast.", "device_settings"⟩ := by
  intro moves course
  have indirect : ∀ move ∈ moves, move.Indirect := by
    simp [moves, Move.Indirect, Operation.Indirect]
  have follows := display_follows_observations Config.charger_valid none .charger true moves indirect
  have fast := follows.1 _ (List.mem_cons_self) _ rfl
  refine ⟨Config.charger_valid, indirect, fast.trans ?_⟩
  decide +kernel

end Session

end ModeSwitch
