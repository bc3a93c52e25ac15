import ModeSwitch.Proofs.Procedure.Agreement
import ModeSwitch.Proofs.Session.Operations

/-! Sessions that an observer cannot tell apart.

Two sessions make the same moves over devices that are alike.  If every operation agrees with itself
for the observer, the reports are the same as far as the observer sees events, and the sessions stay
alike.  What holds of one operation holds of changes made at the same time, of a move, and by
induction of all moves.
-/

namespace ModeSwitch

open Procedure

variable {observer : Observer}

/-- A change agrees with itself if looking for the attribute is heeded and setting a toggle agrees
with itself: its lock makes no difference. -/
theorem Settings.change_agrees (probes : ∀ path, observer.heeds (.probe path))
    (sets
      : ∀ (toggle : Toggle) requested,
          (toggle.set requested).Agree observer (toggle.set requested))
    (settings : Settings) (key : String) (requested : State)
    : (settings.change key requested).Agree observer (settings.change key requested) := by
  cases known : settings.slot? key with
  | none =>
      rw [change_of_unknown known]
      exact .done _
  | some slot =>
      have reported (result : Except WriteFailure State)
          : (report key requested result).Only fun _ => False :=
        report_only key requested result
      have setting : (slot.setting key requested).Agree observer (slot.setting key requested) :=
        (sets slot.toggle requested).bind fun result => (reported result).agree fun _ => False.elim
      rw [change_of_known known]
      refine Agree.holding (.ask fun present present' same => ?_) slot.lock
      obtain rfl := same (probes slot.toggle.path)
      dsimp only
      split
      · exact setting
      · exact .note _ setting

namespace Operation

def Delivers : Operation → Prop
  | .post _ | .withdraw _ => True
  | _ => False

end Operation

namespace Surface

variable {surface : Surface} {seen : Snapshot}

theorem withToggle_agrees {body : Toggle → Procedure Answer}
    (each : ∀ toggle, (body toggle).Agree observer (body toggle)) (subject : Subject)
    : (surface.withToggle subject body).Agree observer (surface.withToggle subject body) := by
  unfold withToggle
  split
  · exact each _
  · exact .done _
  · exact .done _

/-- Every operation but a direct call to the service agrees with itself for an observer who heeds the
store, if setting a toggle does. -/
theorem perform_agrees (heeded : ∀ request : Request, request.Silent → observer.heeds request)
    (sets
      : ∀ (toggle : Toggle) requested,
          (toggle.set requested).Agree observer (toggle.set requested))
    {operation : Operation} (mediate : ¬ operation.Delivers)
    : (surface.perform seen operation).Agree observer (surface.perform seen operation) := by
  -- What neither sets a toggle nor addresses the service asks the store only.
  have silent (h : operation.Silent)
      : (surface.perform seen operation).Agree observer (surface.perform seen operation) :=
    (perform_silent h).agree heeded
  cases operation with
  | post notification => exact (mediate trivial).elim
  | withdraw id => exact (mediate trivial).elim
  | set subject requested =>
      exact (withToggle_agrees (fun t => (sets t requested).bind fun _ => .done _) subject).bind
        fun _ => .done _
  | change key requested =>
      rw [perform_change]
      exact (surface.settings.change_agrees (fun _ => heeded _ rfl) sets key requested).bind
        fun _ => .done _
  | _ => exact silent trivial

end Surface

/-- Two benches whose devices an observer cannot tell apart, neither by requests nor from outside. -/
structure Bench.Alike {δ ε ι : Type} (observer : Observer) (Related : δ → ε → Prop)
    (first : Bench δ ι) (second : Bench ε ι) : Prop where
  respond : Responder.Alike observer Related first.respond second.respond
  intervene
    : ∀ s t change,
        Related s t → Related (first.intervene s change) (second.intervene t change)
  inspect_eq : ∀ s t, Related s t → first.inspect s = second.inspect t
  writes_eq : ∀ s t, Related s t → first.writes s = second.writes t
  calls_eq : ∀ s t, Related s t → first.calls s = second.calls t

/-- Two sessions over devices in related states that differ at most in which locks are poisoned. -/
structure Session.Alike {δ ε : Type} (Related : δ → ε → Prop) (session : Session δ)
    (other : Session ε) : Prop where
  device : Related session.device other.device
  held : session.locks.SameHeld other.locks
  seen_eq : session.seen = other.seen

/-- A report without the events that an observer does not see. -/
def MoveReport.seenBy (observer : Observer) (report : MoveReport) : MoveReport :=
  { report with events := observer.seen report.events }

@[simp]
theorem MoveReport.seenBy_full (report : MoveReport) : report.seenBy .full = report := by
  simp [seenBy]

/-- Does whatever a move performs agree with itself for an observer? -/
def Move.Agrees {ι : Type} (observer : Observer) (surface : Surface) : Move ι → Prop
  | .operate operation =>
      ∀ seen, (surface.perform seen operation).Agree observer (surface.perform seen operation)
  | .together _ =>
      ∀ key requested seen,
        (surface.perform seen (.change key requested)).Agree observer
          (surface.perform seen (.change key requested))
  | .intervene _ | .inspect _ => True

namespace Bench.Alike

variable {δ ε ι : Type} {Related : δ → ε → Prop} {first : Bench δ ι} {second : Bench ε ι}
  {surface : Surface} {session : Session δ} {other : Session ε}

/-- One operation on either bench ends alike and is seen to note the same. -/
theorem operate (benches : Bench.Alike observer Related first second)
    (alike : session.Alike Related other) {operation : Operation}
    (agrees
      : ∀ seen,
          (surface.perform seen operation).Agree observer (surface.perform seen operation))
    : let made := session.operate first surface operation
      let made' := other.operate second surface operation
      made.1 = made'.1
      ∧ observer.seen made.2.1 = observer.seen made'.2.1
      ∧ made.2.2.Alike Related made'.2.2 := by
  have runs : Run.Alike observer Related
      (session.run first (surface.perform session.seen operation))
      (other.run second (surface.perform other.seen operation)) := by
    rw [← alike.seen_eq]
    exact (agrees session.seen).runHolding_alike benches.respond [] alike.device alike.held
  obtain ⟨ending_eq, -, seen_eq, related, held⟩ := runs
  dsimp only [Session.operate]
  generalize session.run first (surface.perform session.seen operation) = run at *
  generalize other.run second (surface.perform other.seen operation) = run' at *
  rw [ending_eq]
  cases run'.ending with
  | finished result => exact ⟨rfl, seen_eq, related, held, rfl⟩
  | panicked => exact ⟨rfl, seen_eq, related, held, alike.seen_eq⟩
  | blocked => exact ⟨rfl, seen_eq, related, held, alike.seen_eq⟩

/-- Changes made at the same time end alike, by induction on them. -/
theorem changeAll (benches : Bench.Alike observer Related first second)
    (agrees
      : ∀ key requested seen,
          (surface.perform seen (.change key requested)).Agree observer
            (surface.perform seen (.change key requested)))
    (alike : session.Alike Related other) (changes : List (String × State))
    : let made := session.changeAll first surface changes
      let made' := other.changeAll second surface changes
      made.1 = made'.1
      ∧ observer.seen made.2.1 = observer.seen made'.2.1
      ∧ made.2.2.Alike Related made'.2.2 := by
  induction changes generalizing session other with
  | nil => exact ⟨rfl, rfl, alike⟩
  | cons change rest ih =>
      obtain ⟨ending_eq, seen_eq, after⟩ := benches.operate alike (agrees change.1 change.2)
      obtain ⟨endings_eq, more_eq, later⟩ := ih after
      dsimp only [Session.changeAll] at *
      refine ⟨?_, ?_, later⟩
      · rw [ending_eq, endings_eq]
      · rw [Observer.seen_append, Observer.seen_append, seen_eq, more_eq]

/-- One move on either bench ends alike and is seen to note the same. -/
theorem move (benches : Bench.Alike observer Related first second) {next : Move ι}
    (agrees : next.Agrees observer surface) (alike : session.Alike Related other)
    : let made := session.move first surface next
      let made' := other.move second surface next
      made.1 = made'.1
      ∧ observer.seen made.2.1 = observer.seen made'.2.1
      ∧ made.2.2.Alike Related made'.2.2 := by
  cases next with
  | operate operation => exact benches.operate alike agrees
  | together changes =>
      obtain ⟨endings_eq, seen_eq, later⟩ := benches.changeAll agrees alike changes
      exact ⟨congrArg (Ending.finished <| Answer.together ·) endings_eq, seen_eq, later⟩
  | intervene change =>
      exact ⟨rfl, rfl, benches.intervene _ _ change alike.device, alike.held, alike.seen_eq⟩
  | inspect path =>
      have looks := benches.inspect_eq _ _ alike.device
      exact ⟨by simp only [Session.move, looks], rfl, alike⟩

/-- One move on either bench is reported alike: the same writes and calls arrive. -/
theorem advance (benches : Bench.Alike observer Related first second) {next : Move ι}
    (agrees : next.Agrees observer surface) (alike : session.Alike Related other)
    : let made := session.advance first surface next
      let made' := other.advance second surface next
      made.1.seenBy observer = made'.1.seenBy observer ∧ made.2.Alike Related made'.2 := by
  obtain ⟨ending_eq, seen_eq, later⟩ := benches.move agrees alike
  refine ⟨?_, later⟩
  simp only [Session.advance, MoveReport.seenBy, ending_eq, seen_eq,
    benches.writes_eq _ _ alike.device, benches.calls_eq _ _ alike.device,
    benches.writes_eq _ _ later.device, benches.calls_eq _ _ later.device]

/-- Sessions that make the same moves report them alike, by induction on the moves. -/
theorem runAll (benches : Bench.Alike observer Related first second) {moves : List (Move ι)}
    (agrees : ∀ next ∈ moves, next.Agrees observer surface) (alike : session.Alike Related other)
    : let course := session.runAll first surface moves
      let course' := other.runAll second surface moves
      course.1.map (·.seenBy observer) = course'.1.map (·.seenBy observer)
      ∧ course.2.Alike Related course'.2 := by
  induction moves generalizing session other with
  | nil => exact ⟨rfl, alike⟩
  | cons next rest ih =>
      obtain ⟨report_eq, after⟩ := benches.advance (agrees next (by simp)) alike
      obtain ⟨reports_eq, later⟩ := ih (fun move member => agrees move (by simp [member])) after
      refine ⟨?_, later⟩
      simp only [Session.runAll, List.map_cons, report_eq, reports_eq]

end Bench.Alike

end ModeSwitch
