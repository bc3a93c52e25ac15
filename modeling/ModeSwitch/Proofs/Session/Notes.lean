import ModeSwitch.Proofs.Procedure.Notes
import ModeSwitch.Proofs.Session.Agreement

/-! What a session notes.

The events of a session come from its settings and its toggles, and from the parts of its device.
Whoever else writes to the journal can tell its own events from these.
-/

namespace ModeSwitch

open Procedure

def Event.IsOwn (event : Event) : Prop :=
  event.origin = .settings ∨ event.origin = .toggle

namespace Toggle

variable (toggle : Toggle)

theorem readMode_notes : toggle.readMode.Notes (·.origin = .toggle) := by
  unfold readMode
  simp only [request, log, bind_eq, Procedure.bind, pure_eq_done]
  intro reply
  cases reply with
  | error cause => exact ⟨rfl, trivial⟩
  | ok raw =>
      dsimp only
      cases toggle.tokens.classify raw with
      | enabled => trivial
      | disabled => trivial
      | unrecognized value => exact ⟨rfl, trivial⟩

theorem currentState_notes : toggle.currentState.Notes (·.origin = .toggle) :=
  notes_bind toggle.readMode_notes fun _ => ⟨rfl, trivial⟩

theorem notify_notes (observed : State) : (toggle.notify observed).Notes (·.origin = .toggle) := by
  cases h : toggle.notification with
  | none =>
      have nothing : toggle.notify observed = .done () := by simp [notify, h]
      rw [nothing]
      trivial
  | some n =>
      have posting : (toggle.repost n observed).Notes (·.origin = .toggle) := by
        cases observed with
        | disabled => trivial
        | enabled =>
            intro reply
            cases reply with
            | ok done => trivial
            | error cause => exact ⟨rfl, trivial⟩
      rw [toggle.notify_eq h]
      intro reply
      cases reply with
      | ok done => exact posting
      | error cause => exact ⟨rfl, posting⟩

/-- Setting a toggle notes events of toggles only, whatever the device answers. -/
theorem set_notes (requested : State) : (toggle.set requested).Notes (·.origin = .toggle) := by
  have settles : (toggle.settle requested).Notes (·.origin = .toggle) := by
    refine notes_bind toggle.currentState_notes fun observed => ?_
    have rest := notes_bind (toggle.notify_notes observed)
      (f := fun _ => .done (.ok observed : Except WriteFailure State)) fun _ => trivial
    dsimp only
    split
    · exact rest
    · exact ⟨rfl, rest⟩
  rw [set_eq]
  refine ⟨rfl, fun reply => ?_⟩
  cases reply with
  | ok done => exact settles
  | error cause => exact ⟨rfl, trivial⟩

end Toggle

theorem Slot.entry_notes (slot : Slot) : slot.entry.Notes (·.origin = .toggle) := by
  unfold Slot.entry Toggle.isSupported
  simp only [request, bind_eq, Procedure.bind, pure_eq_done]
  intro present
  cases present with
  | true => exact notes_bind slot.toggle.currentState_notes fun _ => trivial
  | false => trivial

theorem Slot.present?_notes (slot : Slot) : slot.present?.Notes (·.origin = .toggle) := by
  unfold Slot.present? Toggle.isSupported
  simp only [request, bind_eq, Procedure.bind, pure_eq_done]
  intro present
  cases present with
  | true => exact notes_bind slot.toggle.currentState_notes fun _ => trivial
  | false => trivial

namespace Settings

variable (settings : Settings)

theorem entries_notes : settings.entries.Notes (·.origin = .toggle) :=
  notes_gather Slot.entry_notes settings.slots

theorem entry_notes (key : String) : (settings.entry key).Notes (·.origin = .toggle) := by
  unfold entry
  split
  · trivial
  · exact notes_bind (Slot.entry_notes _) fun _ => trivial

theorem snapshot_notes : settings.snapshot.Notes (·.origin = .toggle) :=
  notes_bind (notes_gather Slot.present?_notes settings.slots) fun _ => trivial

/-- Only a change makes notes of the settings themselves. -/
theorem change_notes (key : String) (requested : State)
    : (settings.change key requested).Notes Event.IsOwn := by
  cases known : settings.slot? key with
  | none =>
      rw [change_of_unknown known]
      trivial
  | some slot =>
      have setting := notes_bind
        ((slot.toggle.set_notes requested).mono fun _ own => (.inr own : Event.IsOwn _))
        (f := report key requested) fun result => by
          cases result with
          | error failure => trivial
          | ok observed => dsimp only [report]; split <;> exact ⟨.inl rfl, trivial⟩
      rw [change_of_known known]
      have inside : (slot.changing key requested).Notes Event.IsOwn := by
        intro present
        cases present with
        | true => exact setting
        | false => exact ⟨.inl rfl, setting⟩
      exact notes_holding inside slot.lock

end Settings

namespace Surface

variable (surface : Surface)

theorem withToggle_notes {may : Event → Prop} {body : Toggle → Procedure Answer}
    (each : ∀ toggle, (body toggle).Notes may) (subject : Subject)
    : (surface.withToggle subject body).Notes may := by
  unfold withToggle
  split
  · exact each _
  · trivial
  · trivial

/-- Whatever a session performs, its notes come from the settings and from toggles. -/
theorem perform_notes (seen : Snapshot) (operation : Operation)
    : (surface.perform seen operation).Notes Event.IsOwn := by
  have own {α : Type} {p : Procedure α} (h : p.Notes (·.origin = .toggle)) : p.Notes Event.IsOwn :=
    h.mono fun _ => .inr
  have subject {body : Toggle → Procedure Answer} (s : Subject)
      (each : ∀ toggle, (body toggle).Notes (·.origin = .toggle))
      : ((surface.withToggle s body).bind fun answer =>
          (.done (answer, seen) : Procedure (Answer × Snapshot))).Notes Event.IsOwn :=
    notes_bind (own (surface.withToggle_notes each s)) fun _ => trivial
  cases operation with
  | storeProbe path => exact fun _ => trivial
  | storeRead path => exact fun _ => trivial
  | storeWrite path contents => exact fun _ => trivial
  | post notification => exact fun _ => trivial
  | withdraw id => exact fun _ => trivial
  | isSupported s => exact subject s fun _ _ => trivial
  | state s => exact subject s fun t => notes_bind t.currentState_notes fun _ => trivial
  | readMode s => exact subject s fun t => notes_bind t.readMode_notes fun _ => trivial
  | describe s => exact subject s fun t => notes_bind t.readMode_notes fun _ => trivial
  | set s requested => exact subject s fun t => notes_bind (t.set_notes requested) fun _ => trivial
  | info s => exact subject s fun _ => trivial
  | dump s pretty => exact subject s fun _ => trivial
  | summary => trivial
  | entries => exact notes_bind (own surface.settings.entries_notes) fun _ => trivial
  | lines => exact notes_bind (own surface.settings.entries_notes) fun _ => trivial
  | displayNames => exact notes_bind (own surface.settings.entries_notes) fun _ => trivial
  | entry key =>
      refine notes_bind (own (surface.settings.entry_notes key)) fun result => ?_
      cases result <;> trivial
  | change key requested =>
      exact notes_bind (surface.settings.change_notes key requested) fun _ => trivial
  | snapshot => exact notes_bind (own surface.settings.snapshot_notes) fun _ => trivial
  | diff => exact notes_bind (own surface.settings.snapshot_notes) fun _ => trivial

end Surface

/-- Every event that a service notes is one that may be noted. -/
structure Notifier.Notes {ν : Type} (may : Event → Prop) (notifier : Notifier ν) : Prop where
  withdraw : ∀ id state, ∀ event ∈ (notifier.withdraw id state).events, may event
  post : ∀ notification state, ∀ event ∈ (notifier.post notification state).events, may event

theorem Recorder.service_notes {may : Event → Prop} : service.Notes may where
  withdraw id recorder := by simp [service, receive]
  post notification recorder := by simp [service, receive]

/-- Attributes in memory note nothing, so what a device notes comes from its service. -/
theorem Device.responder_notes {ν : Type} {may : Event → Prop} {notifier : Notifier ν}
    (noted : notifier.Notes may) (request : Request) (device : Device MemoryStore ν)
    : ∀ event ∈ (responder MemoryStore.service notifier request device).events, may event := by
  cases request with
  | probe path => simp [responder, ofStore, MemoryStore.service]
  | read path => simp [responder, ofStore, MemoryStore.service]
  | write path contents =>
      dsimp only [responder, ofStore, MemoryStore.service]
      split
      · simp
      · split <;> simp
  | withdraw id => exact noted.withdraw id device.notifier
  | post notification => exact noted.post notification device.notifier

namespace Session

variable {δ ι : Type} {bench : Bench δ ι} {may : Event → Prop}
  (own : ∀ event : Event, event.IsOwn → may event)
  (device : ∀ request state, ∀ event ∈ (bench.respond request state).events, may event)
  (surface : Surface)
include own device

/-- An operation notes events of settings and toggles, and otherwise what the device notes. -/
theorem operate_notes (session : Session δ) (operation : Operation)
    : ∀ event ∈ (session.operate bench surface operation).2.1, may event := by
  have noted := ((surface.perform_notes session.seen operation).mono own).of_mem_events device []
    session.device session.locks
  dsimp only [operate]
  split <;> exact noted

theorem changeAll_notes (changes : List (String × State)) (session : Session δ)
    : ∀ event ∈ (session.changeAll bench surface changes).2.1, may event := by
  induction changes generalizing session with
  | nil => simp [changeAll]
  | cons change rest ih =>
      intro event member
      rcases List.mem_append.mp member with first | later
      · exact operate_notes own device surface session (.change change.1 change.2) event first
      · exact ih _ event later

theorem advance_notes (session : Session δ) (next : Move ι)
    : ∀ event ∈ (session.advance bench surface next).1.events, may event := by
  cases next with
  | operate operation => exact operate_notes own device surface session operation
  | together changes => exact changeAll_notes own device surface changes session
  | intervene change => simp [advance, move]
  | inspect path => simp [advance, move]

/-- What the settings, the toggles and the device may note is all that a session notes, by induction
on its moves. -/
theorem runAll_notes (moves : List (Move ι)) (session : Session δ)
    : ∀ report ∈ (session.runAll bench surface moves).1, ∀ event ∈ report.events, may event := by
  induction moves generalizing session with
  | nil => simp [runAll]
  | cons next rest ih =>
      intro report member
      rcases List.mem_cons.mp member with rfl | later
      · exact advance_notes own device surface session next
      · exact ih _ report later

end Session

end ModeSwitch
