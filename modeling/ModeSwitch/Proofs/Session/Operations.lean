import ModeSwitch.Proofs.Settings.Changes
import ModeSwitch.Proofs.Settings.Queries
import ModeSwitch.Session

/-! What the operations of a session leave, and what they say to the notification service.

A request of a state ends in one of four ways, and each tells what it leaves.  Only such a request
addresses the service on behalf of a toggle.  It sends the notices of the state that it observed if
it went through, and nothing otherwise.
-/

namespace ModeSwitch

open Procedure RecordingDevice

abbrev Request.Silent (request : Request) : Prop :=
  request.call? = none

namespace Operation

/-- Does an operation neither request a state nor address the service? -/
def Silent : Operation → Prop
  | .set .. | .change .. | .post _ | .withdraw _ => False
  | _ => True

/-- Does an operation address the service on behalf of a described toggle at most? -/
def Indirect : Operation → Prop
  | .post _ | .withdraw _ | .set .own _ => False
  | _ => True

/-- The state that a request of a state observed, with the key of the toggle, if the request went
through. -/
def observation? : Operation → Ending Answer → Option (String × State)
  | .change key _, .finished (.change _ (.ok outcome)) => some (key, outcome.observed)
  | .set (.keyed key) _, .finished (.set (.ok observed)) => some (key, observed)
  | _, _ => none

/-- A silent operation observes nothing on behalf of the service. -/
theorem Silent.observation?_eq {operation : Operation} (h : operation.Silent)
    (ending : Ending Answer)
    : operation.observation? ending = none := by
  cases operation <;> first | rfl | exact h.elim

/-- An indirect operation is silent or requests a state of a described toggle. -/
theorem Indirect.cases {operation : Operation} (h : operation.Indirect)
    : operation.Silent
      ∨ (∃ key requested, operation = .set (.keyed key) requested)
      ∨ ∃ key requested, operation = .change key requested := by
  cases operation with
  | post notification => exact h.elim
  | withdraw id => exact h.elim
  | change key requested => exact .inr (.inr ⟨key, requested, rfl⟩)
  | set subject requested =>
      cases subject with
      | own => exact h.elim
      | keyed key => exact .inr (.inl ⟨key, requested, rfl⟩)
  | _ => exact .inl trivial

end Operation

def Subject.missing : Subject → Answer
  | .own => .nothing
  | .keyed key => .unknownToggle key

def Settings.notices (settings : Settings) (key : String) (observed : State)
    : List NotifierCall :=
  match settings.toggle? key with
  | none => []
  | some toggle => toggle.notices observed

def Settings.noticesOf (settings : Settings) (observations : List (String × State))
    : List NotifierCall :=
  observations.flatMap fun observation => settings.notices observation.1 observation.2

/-- Looking at attributes leaves the service alone. -/
theorem Request.IsQuery.silent {request : Request} (h : request.IsQuery) : request.Silent := by
  cases request <;> first | rfl | exact h.elim

/-- A procedure that only looks at attributes leaves the service alone. -/
theorem Procedure.Only.silent {α : Type} {p : Procedure α} (h : p.Only Request.IsQuery)
    : p.Only Request.Silent :=
  h.mono fun _ => Request.IsQuery.silent

namespace Surface

variable {surface : Surface} {seen : Snapshot}

/-- Whatever keeps to the allowed requests for each toggle keeps to them for the toggle of a
subject. -/
theorem withToggle_only {allowed : Request → Prop} {body : Toggle → Procedure Answer}
    (each : ∀ toggle, (body toggle).Only allowed) (subject : Subject)
    : (surface.withToggle subject body).Only allowed := by
  unfold withToggle
  split
  · exact each _
  · trivial
  · trivial

/-- Silent operations leave the service alone. -/
theorem perform_silent {operation : Operation} (h : operation.Silent)
    : (surface.perform seen operation).Only Request.Silent := by
  have subject : ∀ {body : Toggle → Procedure Answer} (subject : Subject),
      (∀ toggle, (body toggle).Only Request.Silent)
      → ((surface.withToggle subject body).bind fun answer =>
          (.done (answer, seen) : Procedure (Answer × Snapshot))).Only Request.Silent :=
    fun subject each => only_bind (withToggle_only each subject) fun _ => trivial
  cases operation with
  | storeProbe path => exact ⟨rfl, fun _ => trivial⟩
  | storeRead path => exact ⟨rfl, fun _ => trivial⟩
  | storeWrite path contents => exact ⟨rfl, fun _ => trivial⟩
  | post notification => exact h.elim
  | withdraw id => exact h.elim
  | isSupported s => exact subject s fun _ => ⟨rfl, fun _ => trivial⟩
  | state s => exact subject s fun t => only_bind t.currentState_queries.silent fun _ => trivial
  | readMode s => exact subject s fun t => only_bind t.readMode_queries.silent fun _ => trivial
  | describe s => exact subject s fun t => only_bind t.readMode_queries.silent fun _ => trivial
  | set s requested => exact h.elim
  | info s => exact subject s fun _ => trivial
  | dump s pretty => exact subject s fun _ => trivial
  | summary => trivial
  | entries => exact only_bind surface.settings.entries_queries.silent fun _ => trivial
  | lines => exact only_bind surface.settings.entries_queries.silent fun _ => trivial
  | displayNames => exact only_bind surface.settings.entries_queries.silent fun _ => trivial
  | entry key =>
      refine only_bind (surface.settings.entry_queries key).silent fun result => ?_
      cases result <;> trivial
  | change key requested => exact h.elim
  | snapshot => exact only_bind surface.settings.snapshot_queries.silent fun _ => trivial
  | diff => exact only_bind surface.settings.snapshot_queries.silent fun _ => trivial

/-- A change is performed by the settings. -/
theorem perform_change (key : String) (requested : State)
    : surface.perform seen (.change key requested)
      = (surface.settings.change key requested).bind fun result =>
          .done (.change key result, seen) :=
  rfl

/-- A request of a state is performed by the toggle of its subject. -/
theorem perform_set {subject : Subject} {toggle : Toggle}
    (known : surface.toggle? subject = some toggle) (requested : State)
    : surface.perform seen (.set subject requested)
      = (toggle.set requested).bind fun result => .done (.set result, seen) := by
  simp only [perform, withToggle, known, bind_eq, pure_eq_done]
  exact bind_assoc ..

/-- A request of a state of a missing toggle is answered at once. -/
theorem perform_set_of_missing {subject : Subject} (missing : surface.toggle? subject = none)
    (requested : State)
    : surface.perform seen (.set subject requested) = .done (subject.missing, seen) := by
  simp only [perform, withToggle, missing, bind_eq, pure_eq_done]
  cases subject <;> rfl

section Runs

variable (seen : Snapshot) (device : RecordingDevice) (locks : Locks)

/-- A request of a state runs as the request of its toggle does. -/
theorem run_set {subject : Subject} {toggle : Toggle}
    (known : surface.toggle? subject = some toggle) (requested : State)
    : (surface.perform seen (.set subject requested)).run respond device locks
      = ((toggle.set requested).run respond device locks).map
          fun result => (.set result, seen) := by
  rw [perform_set known]
  exact runHolding_map ..

/-- A change runs as the change of the settings does. -/
theorem run_change (surface : Surface) (key : String) (requested : State)
    : (surface.perform seen (.change key requested)).run respond device locks
      = ((surface.settings.change key requested).run respond device locks).map
          fun result => (.change key result, seen) := by
  rw [perform_change]
  exact runHolding_map ..

end Runs

end Surface

/-- How a request of a state of a toggle ends on a device, and what it leaves.  Without a toggle it
comes to nothing. -/
inductive Toggle.Requested (device : RecordingDevice) (locks : Locks) (requested : State)
    : Option Toggle
      → Ending (Option (Except WriteFailure State))
      → RecordingDevice
      → Locks
      → Prop where
  | missing : Requested device locks requested none (.finished none) device locks
  /-- The write panicked and changed nothing; locks may be poisoned, but none is held. -/
  | panicked (toggle : Toggle) (locks' : Locks) (free : locks'.Free)
    : Requested device locks requested (some toggle) .panicked device locks'
  | refused (toggle : Toggle)
    : Requested device locks requested (some toggle)
        (.finished (some (.error ⟨toggle.path, .noAttribute⟩))) device locks
  /-- The write went through, and the service received the notices of the state that the written
  store shows. -/
  | accepted (toggle : Toggle) (written : RecordingDevice)
    (wrote : written = device.accepting toggle.path (toggle.tokens.line requested))
    : Requested device locks requested (some toggle)
        (.finished (some (.ok (toggle.observe written.store))))
        (written.receiving (toggle.notices (toggle.observe written.store))) locks

/-- The state that a request of a state came to observe, if it went through. -/
def Toggle.observed? : Ending (Option (Except WriteFailure State)) → Option State
  | .finished (some (.ok observed)) => some observed
  | _ => none

namespace Toggle.Requested

variable {device later : RecordingDevice} {locks locks' : Locks} {requested : State}
  {toggle? : Option Toggle} {ending : Ending (Option (Except WriteFailure State))}

/-- No lock is held after a request, even if it panicked. -/
theorem free (made : Requested device locks requested toggle? ending later locks')
    (start : locks.Free)
    : locks'.Free := by
  cases made with
  | missing => exact start
  | panicked toggle locks free => exact free
  | refused toggle => exact start
  | accepted toggle written wrote => exact start

/-- The service received the notices of the observed state, if one was observed. -/
theorem notifier_eq {settings : Settings} {key : String}
    (made : Requested device locks requested (settings.toggle? key) ending later locks')
    : later.notifier
      = (device.receiving
          (settings.noticesOf ((observed? ending).map (key, ·)).toList)).notifier := by
  generalize known : settings.toggle? key = toggle? at made
  cases made with
  | missing => simp [observed?, Settings.noticesOf]
  | panicked toggle locks free => simp [observed?, Settings.noticesOf]
  | refused toggle => simp [observed?, Settings.noticesOf]
  | accepted toggle written wrote =>
      simp [observed?, Settings.noticesOf, Settings.notices, known, wrote, receiving, accepting]

end Toggle.Requested

/-- The answer to a request of a state of a subject, by the result of its toggle. -/
def Subject.setAnswer (subject : Subject) : Option (Except WriteFailure State) → Answer
  | none => subject.missing
  | some result => .set result

/-- The answer to a change of a key, by the result of its toggle. -/
def Settings.changeAnswer (key : String) (requested : State)
    : Option (Except WriteFailure State) → Answer
  | none => .change key (.error (.unknownToggle key))
  | some result => .change key (changed requested result)

namespace Surface

variable {surface : Surface} {seen : Snapshot} {device : RecordingDevice} {locks : Locks}

/-- A request of a state ends in one of these ways, as the store takes its write. -/
theorem set_requested (subject : Subject) (requested : State) (free : locks.Free)
    : ∃ ending later locks',
        Toggle.Requested device locks requested (surface.toggle? subject) ending later locks'
        ∧ ((surface.perform seen (.set subject requested)).run respond device locks).Leaves
            (ending.map fun result => (subject.setAnswer result, seen)) later locks' := by
  cases known : surface.toggle? subject with
  | none =>
      rw [perform_set_of_missing known]
      exact ⟨_, _, _, .missing, leaves_done _⟩
  | some toggle =>
      rw [run_set seen device locks known]
      rcases device.store.takes toggle.path with on | ⟨calm, refused⟩ | ⟨calm, willing, present⟩
      · have left := toggle.set_leaves_of_panicking [] locks requested on
        exact ⟨_, _, _, .panicked toggle locks free, left.map _⟩
      · have left := toggle.set_leaves_of_refused [] locks requested calm refused
        exact ⟨_, _, _, .refused toggle, left.map _⟩
      · have left := toggle.set_leaves_of_accepted [] locks requested calm willing present
        exact ⟨_, _, _, .accepted toggle _ rfl, left.map _⟩

/-- A change ends in one of these ways: what it leaves inside its lock is all that it leaves, since it
finds the lock free. -/
theorem change_requested (key : String) (requested : State) (free : locks.Free)
    : ∃ ending later locks',
        Toggle.Requested device locks requested (surface.settings.toggle? key) ending later locks'
        ∧ ((surface.perform seen (.change key requested)).run respond device locks).Leaves
            (ending.map fun result => (Settings.changeAnswer key requested result, seen)) later
            locks' := by
  rw [run_change]
  cases known : surface.settings.slot? key with
  | none =>
      have unknown : surface.settings.toggle? key = none := by simp [Settings.toggle?, known]
      have left : ((surface.settings.change key requested).run respond device locks).Leaves
          (.finished (.error (.unknownToggle key))) device locks :=
        Settings.change_leaves_of_unknown known requested
      rw [unknown]
      exact ⟨_, _, _, .missing, left.map _⟩
  | some slot =>
      have found : surface.settings.toggle? key = some slot.toggle := by
        simp [Settings.toggle?, known]
      rw [found]
      rcases device.store.takes slot.toggle.path with
        on | ⟨calm, refused⟩ | ⟨calm, willing, present⟩
      · have left := Settings.change_leaves_of_panicking known requested (free slot.lock) on
        exact ⟨_, _, _, .panicked slot.toggle _ (free.poison_take slot.lock), left.map _⟩
      · have left :=
          Settings.change_leaves_of_refused known requested (free slot.lock) calm refused
        exact ⟨_, _, _, .refused slot.toggle, left.map _⟩
      · have left :=
          Settings.change_leaves_of_accepted known requested (free slot.lock) calm willing present
        exact ⟨_, _, _, .accepted slot.toggle _ rfl, left.map _⟩

end Surface

/-- What an operation does as far as the service and the locks are concerned: the recorder receives
some calls, and no lock stays held. -/
structure Run.Sends {α : Type} (run : Run RecordingDevice α) (device : RecordingDevice)
    (calls : List NotifierCall) : Prop where
  notifier_eq : run.state.notifier = (device.receiving calls).notifier
  free : run.locks.Free

namespace Surface

variable {surface : Surface} {seen : Snapshot} {device : RecordingDevice} {locks : Locks}

/-- What an operation sends: the notices of the state it observed, if it observed one. -/
def sent (settings : Settings) (operation : Operation) (ending : Ending Answer)
    : List NotifierCall :=
  settings.noticesOf (operation.observation? ending).toList

/-- A silent operation sends nothing: no request of it reaches the service. -/
theorem silent_sends {operation : Operation} (h : operation.Silent) (free : locks.Free)
    : ((surface.perform seen operation).run respond device locks).Sends device [] := by
  have only : (surface.perform seen operation).Only Request.Silent := perform_silent h
  refine ⟨?_, ?_⟩
  · refine only.state_invariant (fun later => later.notifier = (device.receiving []).notifier)
      ?_ [] device locks (by rw [receiving_nil])
    intro request silent state kept
    cases request with
    | probe path => exact kept
    | read path => exact kept
    | write path contents =>
        rcases state.store.takes path with on | ⟨calm, refused⟩ | ⟨calm, willing, present⟩
        · rw [respond_write_of_panicking on]; exact kept
        · rw [respond_write_of_refused calm refused]; exact kept
        · rw [respond_write_of_accepted calm willing present]; exact kept
    | withdraw id => cases silent
    | post notification => cases silent
  · rcases only.finished_or_panicked respond [] device locks with ⟨value, -, same⟩ | ⟨-, same⟩
    · exact same.symm ▸ free
    · exact same.symm ▸ free

/-- Whatever requests a state for a key and is seen to observe what its toggle observed sends the
notices of this state. -/
theorem sends_of_requested {operation : Operation} {key : String} {requested : State}
    {answer : Option (Except WriteFailure State) → Answer}
    {run : Run RecordingDevice (Answer × Snapshot)}
    {ending : Ending (Option (Except WriteFailure State))} {later : RecordingDevice}
    {locks' : Locks} (free : locks.Free)
    (observes
      : operation.observation? (ending.map answer)
        = (Toggle.observed? ending).map (key, ·))
    (made
      : Toggle.Requested device locks requested (surface.settings.toggle? key) ending later locks')
    (left : run.Leaves (ending.map fun result => (answer result, seen)) later locks')
    : run.Sends device (sent surface.settings operation (run.ending.map (·.1))) := by
  have received := made.notifier_eq
  have free' := made.free free
  obtain ⟨ending_eq, rfl, rfl⟩ := left
  have answered : run.ending.map (·.1) = ending.map answer := by
    rw [ending_eq]
    cases ending <;> rfl
  refine ⟨?_, free'⟩
  rw [received, answered, sent, observes]

/-- A request of a state of a described toggle sends the notices of the state it observed. -/
theorem set_sends (key : String) (requested : State) (free : locks.Free)
    : let run := (surface.perform seen (.set (.keyed key) requested)).run respond device locks
      run.Sends device
        (sent surface.settings (.set (.keyed key) requested) (run.ending.map (·.1))) := by
  obtain ⟨ending, later, locks', made, left⟩ := set_requested (.keyed key) requested free
  refine sends_of_requested free ?_ made left
  rcases ending with (_ | _ | _) | _ | _ <;> rfl

/-- A change sends the notices of the state it observed. -/
theorem change_sends (key : String) (requested : State) (free : locks.Free)
    : let run := (surface.perform seen (.change key requested)).run respond device locks
      run.Sends device
        (sent surface.settings (.change key requested) (run.ending.map (·.1))) := by
  obtain ⟨ending, later, locks', made, left⟩ := change_requested key requested free
  refine sends_of_requested free ?_ made left
  rcases ending with (_ | _ | _) | _ | _ <;> rfl

/-- An indirect operation sends the notices of the state that it observed, if it observed one. -/
theorem perform_sends (surface : Surface) (seen : Snapshot) (device : RecordingDevice)
    {operation : Operation} (h : operation.Indirect) (free : locks.Free)
    : let run := (surface.perform seen operation).run respond device locks
      run.Sends device (sent surface.settings operation (run.ending.map (·.1))) := by
  intro run
  rcases h.cases with silent | ⟨key, requested, rfl⟩ | ⟨key, requested, rfl⟩
  · have nothing : sent surface.settings operation (run.ending.map (·.1)) = [] := by
      simp only [sent, silent.observation?_eq]
      rfl
    rw [nothing]
    exact silent_sends silent free
  · exact set_sends key requested free
  · exact change_sends key requested free

end Surface

end ModeSwitch
