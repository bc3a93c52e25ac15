import ModeSwitch.Proofs.Toggle.Protocol
import ModeSwitch.Settings

/-! Queries of toggles and settings.

A query only looks at attributes.  It finds its value in a store and leaves everything as it was, so
any number of queries in any order find their values in the same store.
-/

namespace ModeSwitch

open Procedure RecordingDevice

section Only

theorem Toggle.readMode_queries (toggle : Toggle) : toggle.readMode.Only Request.IsQuery := by
  refine toggle.readMode_only.mono ?_
  rintro request rfl
  trivial

theorem Toggle.currentState_queries (toggle : Toggle)
    : toggle.currentState.Only Request.IsQuery :=
  only_bind toggle.readMode_queries fun _ => trivial

/-- The entry of a slot takes at most two looks. -/
theorem Slot.entry_queries (slot : Slot) : slot.entry.Only Request.IsQuery := by
  unfold Slot.entry Toggle.isSupported
  simp only [request, bind_eq, Procedure.bind, pure_eq_done]
  refine ⟨trivial, fun present => ?_⟩
  cases present with
  | true => exact only_bind slot.toggle.currentState_queries fun _ => trivial
  | false => trivial

theorem Slot.present?_queries (slot : Slot) : slot.present?.Only Request.IsQuery := by
  unfold Slot.present? Toggle.isSupported
  simp only [request, bind_eq, Procedure.bind, pure_eq_done]
  refine ⟨trivial, fun present => ?_⟩
  cases present with
  | true => exact only_bind slot.toggle.currentState_queries fun _ => trivial
  | false => trivial

theorem Settings.entries_queries (settings : Settings)
    : settings.entries.Only Request.IsQuery :=
  only_gather Slot.entry_queries settings.slots

theorem Settings.entry_queries (settings : Settings) (key : String)
    : (settings.entry key).Only Request.IsQuery := by
  unfold Settings.entry
  split
  · trivial
  · exact only_bind (Slot.entry_queries _) fun _ => trivial

theorem Settings.snapshot_queries (settings : Settings)
    : settings.snapshot.Only Request.IsQuery :=
  only_bind (only_gather Slot.present?_queries settings.slots) fun _ => trivial

end Only

variable {α β : Type}

/-- A query finds a value in a store, and leaves it and its surroundings as they were. -/
def MemoryStore.Finds (store : MemoryStore) (query : Procedure α) (value : α) : Prop :=
  ∀ (recorder : Recorder) (held : List Nat) (locks : Locks),
    (query.runHolding respond held ⟨store, recorder⟩ locks).Leaves (.finished value)
      ⟨store, recorder⟩ locks

namespace MemoryStore.Finds

variable {store : MemoryStore}

/-- A query finds one value only. -/
theorem unique {query : Procedure α} {value other : α} (first : store.Finds query value)
    (second : store.Finds query other)
    : value = other := by
  have ended := (first (.fresh false) [] .fresh).ending_eq
  rw [(second (.fresh false) [] .fresh).ending_eq] at ended
  exact (Ending.finished.inj ended).symm

theorem done (value : α) : store.Finds (.done value) value :=
  fun _ _ _ => leaves_done value

theorem note {event : Event} {query : Procedure α} {value : α} (found : store.Finds query value)
    : store.Finds (.note event query) value :=
  fun recorder held locks => leaves_note (found recorder held locks)

theorem probe {path : AttrPath} {next : Bool → Procedure α} {value : α}
    (found : store.Finds (next (store.holds path)) value)
    : store.Finds (.ask (.probe path) next) value :=
  fun recorder held locks =>
    leaves_ask (respond_probe ⟨store, recorder⟩ path) (found recorder held locks)

theorem read {path : AttrPath} {next : Except StoreError String → Procedure α} {value : α}
    (found : store.Finds (next (store.readAt path)) value)
    : store.Finds (.ask (.read path) next) value :=
  fun recorder held locks =>
    leaves_ask (respond_read ⟨store, recorder⟩ path) (found recorder held locks)

/-- A query that goes on with what another one found. -/
theorem bind {p : Procedure α} {f : α → Procedure β} {first : α} {value : β}
    (only : p.Only Request.IsQuery) (found : store.Finds p first)
    (rest : store.Finds (f first) value)
    : store.Finds (p.bind f) value := by
  intro recorder held locks
  rw [only.runHolding_bind]
  exact (found recorder held locks).andThen (rest recorder held locks)

/-- Repeating a query finds what each round finds, by induction on the rounds. -/
theorem gather {f : α → Procedure β} {g : α → β} (only : ∀ a, (f a).Only Request.IsQuery)
    (each : ∀ a, store.Finds (f a) (g a)) (elements : List α)
    : store.Finds (gather f elements) (elements.map g) := by
  induction elements with
  | nil => exact done []
  | cons a rest ih => exact bind (only a) (each a) (bind (only_gather only rest) ih (done _))

end MemoryStore.Finds

namespace Toggle

variable (toggle : Toggle) (store : MemoryStore)

/-- How a store reads for a toggle; a read that fails counts as an unrecognized empty value. -/
def reading : Reading :=
  match store.readAt toggle.path with
  | .ok raw => toggle.tokens.classify raw
  | .error _ => .unrecognized ""

theorem state_reading : (toggle.reading store).state = toggle.observe store := by
  unfold reading observe
  cases store.readAt toggle.path <;> rfl

/-- The store alone decides whether a toggle is supported. -/
theorem isSupported_finds : store.Finds toggle.isSupported (store.holds toggle.path) :=
  .probe (.done _)

theorem readMode_finds : store.Finds toggle.readMode (toggle.reading store) := by
  unfold readMode reading
  simp only [request, log, bind_eq, Procedure.bind, pure_eq_done]
  refine .read ?_
  cases store.readAt toggle.path with
  | error cause => exact .note (.done _)
  | ok raw =>
      dsimp only
      cases toggle.tokens.classify raw with
      | enabled => exact .done _
      | disabled => exact .done _
      | unrecognized value => exact .note (.done _)

/-- The state that a toggle finds is the one that its store shows. -/
theorem currentState_finds : store.Finds toggle.currentState (toggle.observe store) :=
  fun recorder held locks => toggle.currentState_leaves held ⟨store, recorder⟩ locks

variable {toggle store}

/-- A toggle whose attribute cannot be read is off. -/
theorem observe_of_unreadable {cause : StoreError} (h : store.readAt toggle.path = .error cause)
    : toggle.observe store = .disabled := by
  simp [observe, h]

/-- An absent attribute shows its toggle disabled, as a read of it fails. -/
theorem observe_of_absent (absent : store.holds toggle.path = false)
    : toggle.observe store = .disabled := by
  have missing : store.contents? toggle.path = none := by simpa [MemoryStore.holds] using absent
  unfold observe MemoryStore.readAt
  cases store.failReads <;> simp [missing]

end Toggle

end ModeSwitch
