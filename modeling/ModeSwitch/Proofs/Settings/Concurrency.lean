import ModeSwitch.Proofs.Interleaving.Completion
import ModeSwitch.Proofs.Settings.Registers

/-! Changes made at the same time.

A change of a known key is a transaction.  Changes of attributes at different places have nothing in
common: neither a lock nor an attribute nor the id of a notification.  So changes made at the same time
come to what they come to one after another.
-/

namespace ModeSwitch

open Procedure RecordingDevice

namespace Toggle

variable (toggle : Toggle) (requested : State)

/-- A request of a state writes to the attribute of the toggle and settles the write. -/
theorem set_commits
    : (toggle.set requested).Commits toggle.path (toggle.notification.map (·.id)) := by
  rw [set_eq]
  refine ⟨rfl, fun reply => ?_⟩
  cases reply with
  | ok done => exact toggle.settle_only requested
  | error cause => trivial

theorem readMode_endsWithin : toggle.readMode.EndsWithin 2 := by
  unfold readMode
  simp only [request, log, bind_eq, Procedure.bind, pure_eq_done]
  intro reply
  cases reply with
  | error cause => trivial
  | ok raw => dsimp only; split <;> trivial

theorem currentState_endsWithin : toggle.currentState.EndsWithin 3 :=
  toggle.readMode_endsWithin.bind 1 fun _ => trivial

theorem notify_endsWithin (observed : State) : (toggle.notify observed).EndsWithin 4 := by
  cases h : toggle.notification with
  | none => simp only [notify, h]; trivial
  | some n =>
      have posting : (toggle.repost n observed).EndsWithin 2 := by
        cases observed with
        | disabled => trivial
        | enabled => intro reply; cases reply <;> trivial
      rw [toggle.notify_eq h]
      intro reply
      cases reply with
      | ok done => exact posting.mono (Nat.le_succ 2)
      | error cause => exact posting

/-- A write is settled in eight steps. -/
theorem settle_endsWithin : (toggle.settle requested).EndsWithin 8 := by
  refine toggle.currentState_endsWithin.bind 5 fun observed => ?_
  have rest : ((toggle.notify observed).bind fun _ =>
      (.done (.ok observed) : Procedure (Except WriteFailure State))).EndsWithin 4 :=
    (toggle.notify_endsWithin observed).bind 0 fun _ => trivial
  dsimp only
  split
  · exact rest.mono (by omega)
  · exact rest

/-- Setting a toggle takes at most one write, one read and two calls to the service, with their notes.
-/
theorem set_endsWithin : (toggle.set requested).EndsWithin 10 := by
  rw [set_eq]
  intro reply
  cases reply with
  | ok done => exact toggle.settle_endsWithin requested
  | error cause => trivial

end Toggle

namespace Slot

variable (slot : Slot) (key : String) (requested : State)

/-- A change looks whether the attribute is present before it sets the toggle. -/
theorem changing_commits
    : (slot.changing key requested).Commits slot.toggle.path
        (slot.toggle.notification.map (·.id)) := by
  have setting : (slot.setting key requested).Commits slot.toggle.path
      (slot.toggle.notification.map (·.id)) :=
    (slot.toggle.set_commits requested).bind fun result => Settings.report_only key requested result
  intro present
  dsimp only
  split <;> exact setting

def transaction : Transaction (Except ChangeError Outcome) where
  lock := slot.lock
  path := slot.toggle.path
  id? := slot.toggle.notification.map (·.id)
  body := slot.changing key requested
  commits := slot.changing_commits key requested

theorem changing_endsWithin : (slot.changing key requested).EndsWithin 13 := by
  have report : ∀ result, (Settings.report key requested result).EndsWithin 1 := by
    intro result
    cases result with
    | error failure => trivial
    | ok observed => dsimp only [Settings.report]; split <;> trivial
  have setting : (slot.setting key requested).EndsWithin 11 :=
    (slot.toggle.set_endsWithin requested).bind 1 report
  intro present
  dsimp only
  split
  · exact setting.mono (by omega)
  · exact setting

end Slot

namespace Settings

/-- The plan of a change: one of an unknown key is answered at once. -/
def plan (settings : Settings) (call : String × State) : Plan (Except ChangeError Outcome) :=
  match settings.slot? call.1 with
  | none => .answered (.error (.unknownToggle call.1))
  | some slot => .transaction (slot.transaction call.1 call.2)

theorem plan_procedure (settings : Settings) (call : String × State)
    : (settings.plan call).procedure = settings.change call.1 call.2 := by
  unfold plan
  cases known : settings.slot? call.1 with
  | none => exact (change_of_unknown known call.2).symm
  | some slot => exact (change_of_known known call.2).symm

/-- A change takes at most fifteen steps. -/
theorem change_endsWithin (settings : Settings) (key : String) (requested : State)
    : (settings.change key requested).EndsWithin 15 := by
  cases known : settings.slot? key with
  | none =>
      rw [change_of_unknown known]
      trivial
  | some slot =>
      rw [change_of_known known]
      intro _
      exact (slot.changing_endsWithin key requested).bind 1 fun _ => trivial

variable {config : Config}

/-- A transaction among the plans of changes is that of a slot. -/
theorem exists_slot_of_transaction {settings : Settings} {calls : List (String × State)}
    {t : Transaction (Except ChangeError Outcome)}
    (member : .transaction t ∈ calls.map settings.plan)
    : ∃ slot ∈ settings.slots,
        t.lock = slot.lock ∧ t.path = slot.toggle.path
        ∧ t.id? = slot.toggle.notification.map (·.id) := by
  obtain ⟨call, -, planned⟩ := List.mem_map.mp member
  unfold plan at planned
  cases known : settings.slot? call.1 with
  | none => simp [known] at planned
  | some slot =>
      obtain rfl : slot.transaction call.1 call.2 = t := by simpa [known] using planned
      exact ⟨slot, (slot?_eq_some known).1, rfl, rfl, rfl⟩

/-- Changes with different locks have nothing in common: in a sound description an id belongs to one
toggle, and all toggles of a place share its lock. -/
theorem plans_apart (sound : config.Sound) (calls : List (String × State))
    : ∀ t u,
        .transaction t ∈ calls.map (ofConfig config).plan
        → .transaction u ∈ calls.map (ofConfig config).plan
        → t.Apart u := by
  intro t u ht hu locks
  obtain ⟨first, hfirst, lock_eq, path_eq, id_eq⟩ := exists_slot_of_transaction ht
  obtain ⟨second, hsecond, lock_eq', path_eq', id_eq'⟩ := exists_slot_of_transaction hu
  rw [lock_eq, lock_eq'] at locks
  have elsewhere : ¬ first.toggle.path.SamePlace second.toggle.path :=
    fun same => locks ((lock_eq_iff hfirst hsecond).mpr same)
  refine ⟨by rwa [path_eq, path_eq'], fun id about about' => elsewhere ?_⟩
  obtain ⟨spec, described, presents⟩ := exists_spec_of_slot hfirst
  obtain ⟨spec', described', presents'⟩ := exists_spec_of_slot hsecond
  rw [id_eq, presents] at about
  rw [id_eq', presents'] at about'
  obtain ⟨n, shows, rfl⟩ := Option.map_eq_some_iff.mp about
  obtain ⟨m, shows', sameId⟩ := Option.map_eq_some_iff.mp about'
  have same := sound.spec_eq_of_id described described' shows shows' sameId.symm
  rw [presents, presents', same]
  rfl

def changesAtOnce (settings : Settings) (calls : List (String × State)) (device : RecordingDevice)
    : System RecordingDevice (Except ChangeError Outcome) :=
  .start device (calls.map fun call => settings.change call.1 call.2)

theorem procedure_comp_plan (settings : Settings)
    : Plan.procedure ∘ settings.plan = fun call => settings.change call.1 call.2 :=
  funext settings.plan_procedure

/-- Changes made at the same time are the plans of the changes. -/
theorem changesAtOnce_eq (settings : Settings) (calls : List (String × State))
    (device : RecordingDevice)
    : settings.changesAtOnce calls device
      = .start device ((calls.map settings.plan).map Plan.procedure) := by
  rw [changesAtOnce, List.map_map, procedure_comp_plan]

/-- The course of the plans of changes is that of the changes in turn. -/
theorem courseOf_plans (settings : Settings) (calls : List (String × State))
    (device : RecordingDevice) (order : List Nat)
    : courseOf (calls.map settings.plan) device order
      = settings.changesInTurn (order.filterMap (calls[·]?)) device .fresh := by
  simp only [courseOf, changesInTurn, List.map_filterMap, List.getElem?_map, Option.map_map,
    procedure_comp_plan]

/-- A change of a slot is between the taking of its lock and the return of it. -/
def IsChanging (settings : Settings) (calls : List (String × State))
    (sys : System RecordingDevice (Except ChangeError Outcome)) (i : Nat) (slot : Slot) : Prop :=
  ∃ call thread,
    calls[i]? = some call
    ∧ settings.slot? call.1 = some slot
    ∧ sys.threads[i]? = some thread
    ∧ thread.held ≠ []

section Schedule

variable {calls : List (String × State)} {device : RecordingDevice} {schedule : List Nat}
  {sys : System RecordingDevice (Except ChangeError Outcome)}

/-- A schedule has at most fifteen steps for each change. -/
theorem changesAtOnce_length_le {settings : Settings}
    (ran : (settings.changesAtOnce calls device).run? respond schedule = some sys)
    : schedule.length ≤ 15 * calls.length := by
  have bounded : ∀ (i : Nat) (thread : Thread (Except ChangeError Outcome)),
      (settings.changesAtOnce calls device).threads[i]? = some thread → thread.EndsWithin 15 := by
    intro i thread found
    simp only [changesAtOnce, System.start, List.map_map, List.getElem?_map] at found
    obtain ⟨call, -, rfl⟩ := Option.map_eq_some_iff.mp found
    exact settings.change_endsWithin call.1 call.2
  simpa [changesAtOnce, System.start] using System.length_le bounded ran

/-- While no write panics, no change does. -/
theorem changesAtOnce_calm {settings : Settings} (calm : device.store.panicking = false)
    (ran : (settings.changesAtOnce calls device).run? respond schedule = some sys)
    : ∀ thread ∈ sys.threads, thread ≠ .panicked := by
  have start : (settings.changesAtOnce calls device).Calm := by
    refine ⟨calm, fun thread member => ?_⟩
    obtain ⟨procedure, -, rfl⟩ := List.mem_map.mp member
    simp
  exact (System.run?_invariant (fun _ _ _ calm stepped => calm.step stepped) ran start).threads

/-- Every schedule of changes keeps the system beside a course of the changes in turn. -/
theorem changesAtOnce_linearized (sound : config.Sound)
    (ran : ((ofConfig config).changesAtOnce calls device).run? respond schedule = some sys)
    : ∃ ended owed,
        Linearized (calls.map (ofConfig config).plan) device
          (effectOrder (calls.map (ofConfig config).plan) device schedule) ended owed sys := by
  rw [changesAtOnce_eq] at ran
  exact (linearized_start _ device).run (plans_apart sound calls) ran

/-- Changes at one place hold the same lock, so they do not hold it together. -/
theorem changesAtOnce_exclusive (sound : config.Sound)
    (ran : ((ofConfig config).changesAtOnce calls device).run? respond schedule = some sys)
    {i j : Nat} {first second : Slot} (hfirst : (ofConfig config).IsChanging calls sys i first)
    (hsecond : (ofConfig config).IsChanging calls sys j second)
    (same : first.toggle.path.SamePlace second.toggle.path)
    : i = j := by
  obtain ⟨ended, owed, linearized⟩ := changesAtOnce_linearized sound ran
  have holds : ∀ {k : Nat} {slot : Slot}, (ofConfig config).IsChanging calls sys k slot →
      slot ∈ (ofConfig config).slots ∧ sys.Holds k slot.lock := by
    rintro k slot ⟨call, thread, called, known, found, inside⟩
    have planned : (calls.map (ofConfig config).plan)[k]?
        = some (.transaction (slot.transaction call.1 call.2)) := by
      simp [called, plan, known]
    exact ⟨(slot?_eq_some known).1, thread, found,
      (linearized.phases k _ _ planned found).held_of_ne_nil inside⟩
  have lock_eq := (lock_eq_iff (holds hfirst).1 (holds hsecond).1).mpr same
  exact linearized.exclusive.unique i j first.lock (holds hfirst).2 (lock_eq ▸ (holds hsecond).2)

end Schedule

/-- In every schedule of changes made at the same time, whatever the driver is told to do, a change
makes at most fifteen steps, and until all have ended one of them can make a step.  No change panics
unless writes do, and two changes at one place are never both between the taking of their lock and
the return of it.  When all have ended, there is an order of the changes that puts every change
before those that began after it ended, and in which they end in turn as they did at the same time.
The attributes and the successful writes are the same then, and so are the calls about each id and
what is on display. -/
theorem changesAtOnce_linearize (valid : config.validate = .ok ()) (store : MemoryStore)
    (recorder : Recorder) (calls : List (String × State)) (schedule : List Nat)
    (sys : System RecordingDevice (Except ChangeError Outcome))
    (ran
      : ((ofConfig config).changesAtOnce calls ⟨store, recorder⟩).run? respond schedule
        = some sys)
    : schedule.length ≤ 15 * calls.length
      ∧ (sys.Complete ∨ ∃ i later, sys.step? respond i = some later)
      ∧ (store.panicking = false → ∀ thread ∈ sys.threads, thread ≠ .panicked)
      ∧ (∀ i j first second,
          (ofConfig config).IsChanging calls sys i first
          → (ofConfig config).IsChanging calls sys j second
          → first.toggle.path.SamePlace second.toggle.path
          → i = j)
      ∧ (sys.Complete
        → ∃ order : List Nat,
            order.Perm (List.range calls.length)
            ∧ Respects schedule order
            ∧ Agrees sys order
                ((ofConfig config).changesInTurn (order.filterMap (calls[·]?))
                  ⟨store, recorder⟩ .fresh)) := by
  have sound := Config.validate_eq_ok_iff.mp valid
  obtain ⟨ended, owed, linearized⟩ := changesAtOnce_linearized sound ran
  refine ⟨changesAtOnce_length_le ran, linearized.complete_or_step,
    fun calm => changesAtOnce_calm calm ran,
    fun i j first second => changesAtOnce_exclusive sound ran, fun complete => ?_⟩
  obtain ⟨perm, agrees⟩ := linearized.agrees complete
  rw [changesAtOnce_eq] at ran
  rw [courseOf_plans] at agrees
  refine ⟨_, by simpa only [List.length_map] using perm, respects_effectOrder ran ?_, agrees⟩
  exact fun i inside => perm.mem_iff.mpr (List.mem_range.mpr inside)

/-- The two switches over one attribute of a charger and its light are turned on at the same time.
While the first switch holds the lock, the second one cannot begin, and the light goes on.  In the end
the attribute holds what the second switch wrote. -/
theorem charger_changesAtOnce_linearize
    : let calls := [("fast", State.enabled), ("turbo", .enabled), ("light", .enabled)]
      let start := (ofConfig .charger).changesAtOnce calls ⟨.charger, .fresh false⟩
      let begun := [0, 2, 0]
      let rest := (List.replicate 7 [0, 2]).flatten ++ [0] ++ List.replicate 8 1
      Config.charger.validate = .ok ()
      ∧ (∃ early, start.run? respond begun = some early ∧ early.step? respond 1 = none)
      ∧ ∃ sys,
          start.run? respond (begun ++ rest) = some sys
          ∧ sys.state.store.contents? ⟨"/sys/charge/mode"⟩ = some "2\n"
          ∧ ∃ order : List Nat,
              order.Perm (List.range 3)
              ∧ Respects (begun ++ rest) order
              ∧ Agrees sys order
                  ((ofConfig .charger).changesInTurn (order.filterMap (calls[·]?))
                    ⟨.charger, .fresh false⟩ .fresh) := by
  intro calls start begun rest
  have waits : (start.run? respond begun).any (fun early => (early.step? respond 1).isNone)
      = true := by
    decide +kernel
  have ends : (start.run? respond (begun ++ rest)).any
      (fun sys =>
        sys.threads.all (·.ending?.isSome)
          && sys.state.store.contents? ⟨"/sys/charge/mode"⟩ == some "2\n") = true := by
    decide +kernel
  obtain ⟨early, reached, waiting⟩ := (Option.any_eq_true _ _).mp waits
  obtain ⟨sys, ran, ended⟩ := (Option.any_eq_true _ _).mp ends
  obtain ⟨all, contents⟩ := Bool.and_eq_true_iff.mp ended
  have complete : sys.Complete := List.all_eq_true.mp all
  have linearized := changesAtOnce_linearize Config.charger_valid .charger (.fresh false) calls
    (begun ++ rest) sys ran
  exact ⟨Config.charger_valid, ⟨early, reached, Option.isNone_iff_eq_none.mp waiting⟩, sys, ran,
    beq_iff_eq.mp contents, linearized.2.2.2.2 complete⟩

end Settings

end ModeSwitch
