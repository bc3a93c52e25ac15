import ModeSwitch.Proofs.Session.Agreement
import ModeSwitch.Proofs.Session.Invariants
import ModeSwitch.Proofs.Toggle.Agreement

/-! What a notification service answers does not reach the device.

Two sessions make the same moves over equal stores, each with a service of its own.  The services
answer as they like; only warnings about failed calls tell the sessions apart.
-/

namespace ModeSwitch

open Procedure

variable {μ ν : Type}

def Move.Delivers {ι : Type} : Move ι → Prop
  | .operate operation => operation.Delivers
  | .together _ | .intervene _ | .inspect _ => False

/-- A move that does not address the service looks past it. -/
theorem Move.agrees_pastService {ι : Type} (surface : Surface) {next : Move ι}
    (mediate : ¬ next.Delivers)
    : next.Agrees .pastService surface := by
  have performs {operation : Operation} (mediate : ¬ operation.Delivers) (seen : Snapshot)
      : (surface.perform seen operation).Agree .pastService (surface.perform seen operation) :=
    Surface.perform_agrees (fun _ silent => silent) Toggle.set_agrees mediate
  cases next with
  | operate operation => exact performs mediate
  | together changes => exact fun key requested => performs id
  | intervene change => trivial
  | inspect path => trivial

/-- Benches with attributes in memory are alike beside any two services that answer. -/
theorem Bench.memory_alike {first : Notifier μ} {second : Notifier ν} (answers : first.Answers)
    (answers' : second.Answers)
    : Bench.Alike .pastService Device.SameBeside (.memory first.recorded (·.2))
        (.memory second.recorded (·.2)) where
  respond := Device.responder_alike MemoryStore.service answers answers'
  intervene _ _ change related := ⟨congrArg (·.intervene change) related.store_eq, related.calls_eq⟩
  inspect_eq _ _ related := by simp only [Bench.memory, related.store_eq]
  writes_eq _ _ related := congrArg (·.writes) related.store_eq
  calls_eq _ _ related := related.calls_eq

namespace Session

/-- Two sessions make the same moves, none of which addresses the service directly, beside any two
services that answer.  Every move ends alike, with the same writes and the same calls to the service,
and notes the same but for the events of the service and the warnings about failed calls; at every
point the stores are equal. -/
theorem services_do_not_reach_device (config : Config) (own : Option Toggle) (store : MemoryStore)
    {first : Notifier μ} {second : Notifier ν} (answers : first.Answers)
    (answers' : second.Answers) (state : μ) (state' : ν)
    (moves : List (Move MemoryStore.Intervention)) (mediate : ∀ move ∈ moves, ¬ move.Delivers)
    : let surface : Surface := ⟨.ofConfig config, own⟩
      let course := (start ⟨store, state, []⟩).runAll (.memory first.recorded (·.2)) surface
      let course' := (start ⟨store, state', []⟩).runAll (.memory second.recorded (·.2)) surface
      (course moves).1.map (·.seenBy .pastService) = (course' moves).1.map (·.seenBy .pastService)
      ∧ (∀ earlier,
          earlier <+: moves
          → (course earlier).2.device.store = (course' earlier).2.device.store
            ∧ (course earlier).2.device.notifier.2 = (course' earlier).2.device.notifier.2)
      ∧ ∀ event : Event,
          Observer.pastService.sees event = false
          → event.origin = .notifier
            ∨ event.level = .warning
              ∧ ∃ toggle cause,
                  event = .withdrawFailed toggle cause ∨ event = .postFailed toggle cause := by
  intro surface course course'
  have alike (earlier : List (Move MemoryStore.Intervention))
      (mediate : ∀ move ∈ earlier, ¬ move.Delivers) :=
    (Bench.memory_alike answers answers').runAll
      (fun next member => Move.agrees_pastService surface (mediate next member))
      (⟨⟨rfl, rfl⟩, .refl _, rfl⟩ : (start ⟨store, state, []⟩).Alike Device.SameBeside
        (start ⟨store, state', []⟩))
  refine ⟨(alike moves mediate).1, fun earlier ahead => ?_, fun _ => Observer.pastService_unseen⟩
  obtain ⟨-, later⟩ := alike earlier fun move member => mediate move (ahead.subset member)
  exact ⟨later.device.store_eq, later.device.calls_eq⟩

/-- A charger is switched on and off beside a journal that accepts every call and a recorder that
fails every call.  Both receive the same calls, though only the failures are warned about. -/
theorem charger_services_do_not_reach_device
    : let moves : List (Move MemoryStore.Intervention) :=
        [.operate (.change "fast" .enabled), .operate (.change "fast" .disabled),
          .operate (.state (.keyed "turbo"))]
      let surface : Surface := ⟨.ofConfig .charger, none⟩
      let journal : Notifier Unit := .journal
      let course := (start ⟨.charger, (), []⟩).runAll (.memory journal.recorded (·.2)) surface
      let course' := (start ⟨.charger, .fresh true, []⟩).runAll
        (.memory Recorder.service.recorded (·.2)) surface
      journal.Answers
      ∧ Recorder.service.Answers
      ∧ (∀ move ∈ moves, ¬ move.Delivers)
      ∧ (course moves).1.map (·.seenBy .pastService)
        = (course' moves).1.map (·.seenBy .pastService)
      ∧ (course' moves).2.device.notifier.2
        = [.withdraw 1,
            .post ⟨1, "Fast charging", "The battery charges fast.", "device_settings"⟩,
            .withdraw 1]
      ∧ .withdrawFailed "fast" .unavailable ∈ (course' moves).1.flatMap (·.events)
      ∧ ∀ event ∈ (course' moves).1.flatMap (·.events),
          Observer.pastService.sees event = false
          → event.origin = .notifier ∨ event.level = .warning := by
  intro moves surface journal course course'
  have mediate : ∀ move ∈ moves, ¬ move.Delivers := by
    simp [moves, Move.Delivers, Operation.Delivers]
  have journals : journal.Answers := Notifier.journal_answers
  obtain ⟨reports, points, unseen⟩ := services_do_not_reach_device .charger none .charger journals
    Recorder.service_answers () (.fresh true) moves mediate
  obtain ⟨-, calls_eq⟩ := points moves List.prefix_rfl
  refine ⟨journals, Recorder.service_answers, mediate, reports, calls_eq ▸ ?_, ?_,
    fun event _ past => (unseen event past).imp_right And.left⟩
  · decide +kernel
  · decide +kernel

end Session

end ModeSwitch
