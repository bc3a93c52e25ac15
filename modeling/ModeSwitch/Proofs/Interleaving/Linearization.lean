import Mathlib.Logic.Function.Basic
import ModeSwitch.Proofs.Interleaving.Phases

/-! Transactions carried out at the same time take effect one after another.

The plans that have been answered or have written are carried out once more, one after another in the
order of their writes.  At every point of a schedule this course has the same attributes as the system,
and it knows how the threads that have written are going to end and which calls they still owe.
-/

namespace ModeSwitch

open Procedure RecordingDevice

variable {α : Type}

/-- About each id the calls `all` are those that were made and then those that one thread still owes;
nobody else owes any about this id. -/
def Owing (owed : Nat → List NotifierCall) (made all : List NotifierCall) : Prop :=
  ∀ id,
    ∃ i,
      (∀ j, j ≠ i → callsAbout id (owed j) = [])
      ∧ callsAbout id all = callsAbout id made ++ callsAbout id (owed i)

namespace Owing

variable {owed : Nat → List NotifierCall} {made all : List NotifierCall} {i : Nat}

/-- A thread makes the first of the calls that it owes. -/
theorem pay (h : Owing owed made all) {sent rest : List NotifierCall}
    (split : owed i = sent ++ rest)
    : Owing (Function.update owed i rest) (made ++ sent) all := by
  intro id
  obtain ⟨k, alone, calls_eq⟩ := h id
  rw [calls_eq, callsAbout_append]
  -- What is sent was owed by this thread, so it is about the id only if the thread owns the id.
  by_cases owner : k = i
  · subst owner
    refine ⟨k, fun j hne => by rw [Function.update_of_ne hne, alone j hne], ?_⟩
    rw [Function.update_self, split, callsAbout_append, List.append_assoc]
  · have none : callsAbout id sent = [] ∧ callsAbout id rest = [] := by
      have nothing := alone i fun same => owner same.symm
      rwa [split, callsAbout_append, List.append_eq_nil_iff] at nothing
    refine ⟨k, fun j hne => ?_, ?_⟩
    · by_cases same : j = i
      · rw [same, Function.update_self, none.2]
      · rw [Function.update_of_ne same, alone j hne]
    · rw [none.1, List.append_nil, Function.update_of_ne owner]

/-- A thread that owed nothing owes further calls, and nobody else owes calls about their ids. -/
theorem incur (h : Owing owed made all) {calls : List NotifierCall} (nothing : owed i = [])
    (others : ∀ call ∈ calls, ∀ j, j ≠ i → callsAbout call.id (owed j) = [])
    : Owing (Function.update owed i calls) made (all ++ calls) := by
  intro id
  obtain ⟨k, alone, calls_eq⟩ := h id
  rw [callsAbout_append, calls_eq]
  -- Whoever owned the id before still does, unless there are calls about it.
  by_cases silent : callsAbout id calls = []
  · have unchanged : ∀ j, callsAbout id (Function.update owed i calls j)
        = callsAbout id (owed j) := by
      intro j
      by_cases same : j = i
      · rw [same, Function.update_self, silent, nothing]
        rfl
      · rw [Function.update_of_ne same]
    refine ⟨k, fun j hne => (unchanged j).trans (alone j hne), ?_⟩
    rw [unchanged, silent, List.append_nil]
  · obtain ⟨call, member⟩ := List.exists_mem_of_ne_nil _ silent
    obtain ⟨made, rfl⟩ : call ∈ calls ∧ call.id = id := by simpa [callsAbout] using member
    have none : callsAbout call.id (owed k) = [] := by
      by_cases same : k = i
      · rw [same, nothing]
        rfl
      · exact others call made k same
    refine ⟨i, fun j hne => by rw [Function.update_of_ne hne, others call made j hne], ?_⟩
    rw [Function.update_self, none, List.append_nil]

/-- When nobody owes a call, all calls about an id were made. -/
theorem callsAbout_eq (h : Owing owed made all) (nothing : ∀ i, owed i = []) (id : UInt32)
    : callsAbout id made = callsAbout id all := by
  obtain ⟨i, -, calls_eq⟩ := h id
  rw [calls_eq, nothing i]
  exact (List.append_nil _).symm

end Owing

/-- Some of the plans, carried out one after another. -/
def courseOf (plans : List (Plan α)) (first : RecordingDevice) (order : List Nat)
    : Succession RecordingDevice α :=
  inTurn respond (order.filterMap fun i => plans[i]?.map Plan.procedure) first .fresh

/-- A transaction that comes last in a course ends and leaves what its body alone does. -/
theorem courseOf_append {plans : List (Plan α)} {first : RecordingDevice} {order : List Nat}
    {i : Nat} {t : Transaction α} (found : plans[i]? = some (.transaction t))
    (free : (courseOf plans first order).locks.Free)
    : let alone := t.body.run respond (courseOf plans first order).state .fresh
      (courseOf plans first (order ++ [i])).endings
          = (courseOf plans first order).endings ++ [alone.ending]
        ∧ (courseOf plans first (order ++ [i])).state = alone.state
        ∧ (courseOf plans first (order ++ [i])).locks.Free := by
  intro alone
  obtain ⟨ending_eq, state_eq, freed⟩ := run_holding respond t.commits.lockless free t.lock
    (courseOf plans first order).state
  have appended : courseOf plans first (order ++ [i])
      = let run := (holding t.lock t.body).run respond (courseOf plans first order).state
          (courseOf plans first order).locks
        ⟨(courseOf plans first order).endings ++ [run.ending], run.state, run.locks⟩ := by
    simp only [courseOf, List.filterMap_append, inTurn_append]
    simp [found, Plan.procedure, inTurn]
  rw [appended]
  exact ⟨congrArg (_ ++ [·]) ending_eq, state_eq, freed⟩

/-- A system beside the course of the plans that have taken effect, in the order `order`.  The plans
are known to end as `ended` tells, and they owe the calls `owed`. -/
structure Linearized (plans : List (Plan α)) (first : RecordingDevice) (order : List Nat)
    (ended : Nat → Option (Ending α)) (owed : Nat → List NotifierCall)
    (sys : System RecordingDevice α) : Prop where
  exclusive : sys.Exclusive
  length_eq : sys.threads.length = plans.length
  phases
    : ∀ (i : Nat) plan thread,
        plans[i]? = some plan
        → sys.threads[i]? = some thread
        → Phase first.store.holds sys.state plan thread (ended i) (owed i)
  /-- Who takes effect is among the plans, and once. -/
  inside : ∀ i ∈ order, i < plans.length
  nodup : order.Nodup
  settled : ∀ i, i ∈ order ↔ (ended i).isSome = true
  endings : (courseOf plans first order).endings.map some = order.map ended
  free : (courseOf plans first order).locks.Free
  /-- No attribute appears or vanishes. -/
  holds : ∀ path, sys.state.store.holds path = first.store.holds path
  store_eq : (courseOf plans first order).state.store = sys.state.store
  failing_eq
    : (courseOf plans first order).state.notifier.failing = sys.state.notifier.failing
  outside : ∀ i, plans.length ≤ i → owed i = []
  calls
    : Owing owed sys.state.notifier.calls (courseOf plans first order).state.notifier.calls

namespace Linearized

variable {plans : List (Plan α)} {first : RecordingDevice} {order : List Nat}
  {ended : Nat → Option (Ending α)} {owed : Nat → List NotifierCall}
  {sys later : System RecordingDevice α} {i : Nat}

/-- The plan of a thread. -/
theorem exists_plan (h : Linearized plans first order ended owed sys) {thread : Thread α}
    (found : sys.threads[i]? = some thread)
    : ∃ plan, plans[i]? = some plan := by
  have inside : i < sys.threads.length := (List.getElem?_eq_some_iff.mp found).1
  exact ⟨_, List.getElem?_eq_getElem (h.length_eq ▸ inside)⟩

/-- The thread of a plan. -/
theorem exists_thread (h : Linearized plans first order ended owed sys) (inside : i < plans.length)
    : ∃ thread, sys.threads[i]? = some thread :=
  ⟨_, List.getElem?_eq_getElem (h.length_eq.symm ▸ inside)⟩

/-- Two transactions that hold their locks at the same time have nothing in common. -/
theorem apart_of_ne (h : Linearized plans first order ended owed sys)
    (apart : ∀ t u, Plan.transaction t ∈ plans → Plan.transaction u ∈ plans → t.Apart u)
    {t u : Transaction α} (planned : plans[i]? = some (.transaction t)) (held : sys.Holds i t.lock)
    {j : Nat} (planned' : plans[j]? = some (.transaction u)) (held' : sys.Holds j u.lock)
    (hne : j ≠ i)
    : ¬ t.path.SamePlace u.path ∧ ∀ id, t.id? = some id → u.id? ≠ some id := by
  have locks : t.lock ≠ u.lock :=
    fun same => hne (h.exclusive.unique j i u.lock held' (same ▸ held))
  exact apart t u (List.mem_of_getElem? planned) (List.mem_of_getElem? planned') locks

/-- Nobody else owes calls about the id of a transaction that holds its lock. -/
theorem owed_of_ne (h : Linearized plans first order ended owed sys)
    (apart : ∀ t u, Plan.transaction t ∈ plans → Plan.transaction u ∈ plans → t.Apart u)
    {t : Transaction α} (planned : plans[i]? = some (.transaction t)) (held : sys.Holds i t.lock)
    {id : UInt32} (about : t.id? = some id) {j : Nat} (hne : j ≠ i)
    : callsAbout id (owed j) = [] := by
  by_contra owes
  obtain ⟨call, member⟩ := List.exists_mem_of_ne_nil _ owes
  obtain ⟨owedCall, callId⟩ : call ∈ owed j ∧ call.id = id := by
    simpa [callsAbout] using member
  have inside : j < plans.length := by
    by_contra beyond
    rw [h.outside j (by omega)] at owedCall
    cases owedCall
  obtain ⟨thread, found⟩ := h.exists_thread inside
  have phase := h.phases j plans[j] thread (List.getElem?_eq_getElem inside) found
  obtain ⟨u, plan_eq, holding, sameId⟩ := phase.of_owed owedCall
  have planned' : plans[j]? = some (.transaction u) := plan_eq ▸ List.getElem?_eq_getElem inside
  have held' : sys.Holds j u.lock := ⟨thread, found, holding⟩
  exact (h.apart_of_ne apart planned held planned' held' hne).2 id about (callId ▸ sameId)

/-- After a step of one thread the others are in the phases in which they were, if they cannot tell
what happened. -/
theorem phases_step (h : Linearized plans first order ended owed sys) {thread thread' : Thread α}
    (found : sys.threads[i]? = some thread) {device : RecordingDevice}
    {ended' : Nat → Option (Ending α)} {owed' : Nat → List NotifierCall}
    (own
      : ∀ plan,
          plans[i]? = some plan
          → Phase first.store.holds device plan thread' (ended' i) (owed' i))
    (ended_eq : ∀ j, j ≠ i → ended' j = ended j) (owed_eq : ∀ j, j ≠ i → owed' j = owed j)
    (alike
      : ∀ j t,
          j ≠ i
          → plans[j]? = some (.transaction t)
          → sys.Holds j t.lock
          → device.Alike t.path sys.state)
    : ∀ (j : Nat) plan threadj,
        plans[j]? = some plan
        → (sys.threads.set i thread')[j]? = some threadj
        → Phase first.store.holds device plan threadj (ended' j) (owed' j) := by
  intro j plan threadj planned foundj
  have inside : i < sys.threads.length := (List.getElem?_eq_some_iff.mp found).1
  by_cases same : j = i
  · subst same
    obtain rfl : thread' = threadj := by simpa [inside] using foundj
    exact own plan planned
  · have other : i ≠ j := fun h => same h.symm
    simp only [ne_eq, other, not_false_eq_true, List.getElem?_set_ne] at foundj
    rw [ended_eq j same, owed_eq j same]
    refine (h.phases j plan threadj planned foundj).frame fun t plan_eq holding => ?_
    exact alike j t same (plan_eq ▸ planned) ⟨threadj, foundj, holding⟩

/-- A step that does not write changes neither the attributes nor the course.  The calls that the
service receives were owed. -/
theorem step_quiet (h : Linearized plans first order ended owed sys) {thread thread' : Thread α}
    (found : sys.threads[i]? = some thread) {device : RecordingDevice} {locks : Locks}
    (stepped : thread.step? respond sys.state sys.locks = some (device, locks, thread'))
    (quiet : thread.isWriting = false)
    : ∃ owed',
        Linearized plans first order ended owed' ⟨device, locks, sys.threads.set i thread'⟩ := by
  obtain ⟨plan, planned⟩ := h.exists_plan found
  have phase := h.phases i plan thread planned found
  have locking := phase.locking stepped
  obtain ⟨sent, rest, split, rfl, phase'⟩ := phase.step_quiet h.holds stepped quiet
  have rest_eq : Function.update owed i rest i = rest := Function.update_self ..
  have owed_eq : ∀ j, j ≠ i → Function.update owed i rest j = owed j :=
    fun j hne => Function.update_of_ne hne ..
  refine ⟨Function.update owed i rest, h.exclusive.step found locking _,
    (List.length_set ..).trans h.length_eq, ?_, h.inside, h.nodup, h.settled, h.endings, h.free,
    h.holds, h.store_eq, h.failing_eq, fun j beyond => ?_, h.calls.pay split⟩
  · refine h.phases_step found (fun other same => ?_) (fun _ _ => rfl) owed_eq
      fun _ _ _ _ _ => alike_receiving sys.state sent
    obtain rfl := Option.some.inj (planned.symm.trans same)
    rw [rest_eq]
    exact phase'
  · have hne : j ≠ i := by
      rintro rfl
      have inside := (List.getElem?_eq_some_iff.mp planned).1
      omega
    rw [owed_eq j hne, h.outside j beyond]

/-- A step that writes puts its transaction at the end of the course.  The transaction ends in the
course as its thread is going to, and what its calls there are about nobody else owes. -/
theorem step_writing (h : Linearized plans first order ended owed sys)
    (apart : ∀ t u, Plan.transaction t ∈ plans → Plan.transaction u ∈ plans → t.Apart u)
    {thread thread' : Thread α} (found : sys.threads[i]? = some thread)
    {device : RecordingDevice} {locks : Locks}
    (stepped : thread.step? respond sys.state sys.locks = some (device, locks, thread'))
    (writing : thread.isWriting = true)
    : ∃ ended' owed',
        Linearized plans first (order ++ [i]) ended' owed'
          ⟨device, locks, sys.threads.set i thread'⟩ := by
  obtain ⟨plan, planned⟩ := h.exists_plan found
  have inside := (List.getElem?_eq_some_iff.mp planned).1
  have phase := h.phases i plan thread planned found
  have locking := phase.locking stepped
  obtain ⟨unsettled, nothing, t, rfl, holding, calls, commits⟩ :=
    phase.step_writing h.holds h.store_eq h.failing_eq stepped writing
  obtain ⟨endings_eq, state_eq, free⟩ := courseOf_append planned h.free
  rw [commits.state_eq] at state_eq
  have held : sys.Holds i t.lock := ⟨thread, found, holding⟩
  have fresh : i ∉ order := by simp [h.settled, unsettled]
  generalize ending_eq : (t.body.run respond (courseOf plans first order).state .fresh).ending
    = ending at *
  have phase' : Phase first.store.holds device (.transaction t) thread' (some ending) calls :=
    ending_eq ▸ commits.phase
  let ended' := Function.update ended i (some ending)
  let owed' := Function.update owed i calls
  have ended_self : ended' i = some ending := Function.update_self ..
  have owed_self : owed' i = calls := Function.update_self ..
  have ended_eq : ∀ j, j ≠ i → ended' j = ended j := fun j hne => Function.update_of_ne hne ..
  have owed_eq : ∀ j, j ≠ i → owed' j = owed j := fun j hne => Function.update_of_ne hne ..
  -- Only what is known of this thread changes; that of the others is carried over.
  refine ⟨ended', owed', h.exclusive.step found locking _,
    (List.length_set ..).trans h.length_eq, ?_, fun j member => ?_, ?_, fun j => ?_, ?_, free,
    fun path => ?_, ?_, ?_, fun j beyond => ?_, ?_⟩
  · refine h.phases_step found (fun other same => ?_) ended_eq owed_eq
      fun j u hne planned' held' => commits.alike ?_
    · obtain rfl := Option.some.inj (planned.symm.trans same)
      rw [ended_self, owed_self]
      exact phase'
    · -- Another thread inside its lock reads a place of its own, which this write does not reach.
      exact (h.apart_of_ne apart planned' held' planned held hne.symm).1
  · rcases List.mem_append.mp member with earlier | now
    · exact h.inside j earlier
    · exact List.mem_singleton.mp now ▸ inside
  · refine List.nodup_append.mpr ⟨h.nodup, by simp, fun j member k now same => ?_⟩
    obtain rfl := List.mem_singleton.mp now
    exact fresh (same ▸ member)
  · by_cases same : j = i
    · subst same
      simp [ended_self]
    · simp [ended_eq j same, h.settled, same]
  · -- Only the new ending is changed, and its thread is not in the order yet.
    have earlier : order.map ended' = order.map ended :=
      List.map_congr_left fun j member => ended_eq j fun same => fresh (same ▸ member)
    rw [endings_eq, List.map_append, List.map_append, earlier, h.endings]
    simp [ended_self]
  · rw [commits.holds_eq, h.holds]
  · rw [state_eq]
    rfl
  · rw [state_eq, commits.notifier_eq]
    exact h.failing_eq
  · have hne : j ≠ i := by omega
    rw [owed_eq j hne, h.outside j beyond]
  · rw [state_eq, commits.notifier_eq]
    refine h.calls.incur nothing fun call made j hne => ?_
    obtain ⟨u, plan_eq, -, about⟩ := phase'.of_owed made
    cases plan_eq
    exact h.owed_of_ne apart planned held about hne

/-- Every schedule keeps the system beside the course of those who had taken effect and then those who
write, by induction on the schedule. -/
theorem run (h : Linearized plans first order ended owed sys)
    (apart : ∀ t u, Plan.transaction t ∈ plans → Plan.transaction u ∈ plans → t.Apart u)
    {schedule : List Nat} (ran : sys.run? respond schedule = some later)
    : ∃ ended' owed',
        Linearized plans first (order ++ sys.writers respond schedule) ended' owed' later := by
  induction schedule generalizing sys order ended owed with
  | nil =>
      obtain rfl := Option.some.inj ran
      exact ⟨ended, owed, (List.append_nil order).symm ▸ h⟩
  | cons i rest ih =>
      obtain ⟨middle, stepped, ran⟩ := System.run?_cons_eq_some.mp ran
      obtain ⟨thread, device, locks, thread', found, step, rfl⟩ := System.step?_eq_some.mp stepped
      rw [System.writers_cons found stepped, ← List.append_assoc]
      cases writing : thread.isWriting with
      | false =>
          obtain ⟨owed', later⟩ := h.step_quiet found step writing
          simpa using ih later ran
      | true =>
          obtain ⟨ended', owed', later⟩ := h.step_writing apart found step writing
          simpa using ih later ran

end Linearized

/-- The ending of a plan that is answered at once. -/
def Plan.ending? : Plan α → Option (Ending α)
  | .answered value => some (.finished value)
  | .transaction _ => none

/-- How the plan at an index ends, if it is answered at once. -/
def answerAt? (plans : List (Plan α)) (i : Nat) : Option (Ending α) :=
  plans[i]?.bind Plan.ending?

def answeredOf (plans : List (Plan α)) : List Nat :=
  (List.range plans.length).filter fun i => (answerAt? plans i).isSome

/-- The course of plans that are answered at once changes nothing. -/
theorem courseOf_answered (plans : List (Plan α)) (first : RecordingDevice) {order : List Nat}
    (answered : ∀ i ∈ order, (answerAt? plans i).isSome = true)
    : (courseOf plans first order).endings.map some = order.map (answerAt? plans)
        ∧ (courseOf plans first order).state = first
        ∧ (courseOf plans first order).locks = .fresh := by
  induction order with
  | nil => exact ⟨rfl, rfl, rfl⟩
  | cons i rest ih =>
      obtain ⟨endings_eq, state_eq, locks_eq⟩ := ih fun j member => answered j (by simp [member])
      obtain ⟨ending, found⟩ := Option.isSome_iff_exists.mp (answered i (by simp))
      obtain ⟨plan, planned, ends⟩ := Option.bind_eq_some_iff.mp found
      cases plan with
      | transaction t => cases ends
      | answered value =>
          have cons_eq : courseOf plans first (i :: rest)
              = { courseOf plans first rest with
                  endings := .finished value :: (courseOf plans first rest).endings } := by
            simp [courseOf, planned, Plan.procedure, inTurn, Procedure.run, runHolding]
          rw [cons_eq]
          refine ⟨?_, state_eq, locks_eq⟩
          simp [endings_eq, answerAt?, planned, Plan.ending?]

/-- At the beginning the plans that are answered at once have taken effect. -/
theorem linearized_start (plans : List (Plan α)) (first : RecordingDevice)
    : Linearized plans first (answeredOf plans) (answerAt? plans) (fun _ => [])
        (.start first (plans.map Plan.procedure)) := by
  have answered : ∀ i ∈ answeredOf plans, (answerAt? plans i).isSome = true :=
    fun i member => (List.mem_filter.mp member).2
  -- Plans without a transaction take effect before anybody moves, in the order of their numbers.
  obtain ⟨endings_eq, state_eq, locks_eq⟩ := courseOf_answered plans first answered
  refine ⟨System.exclusive_start .., by simp [System.start], fun i plan thread planned found => ?_,
    fun i member => ?_, List.nodup_range.filter _, fun i => ?_, endings_eq, ?_, fun _ => rfl, ?_, ?_,
    fun _ _ => rfl, fun id => ⟨0, fun _ _ => rfl, ?_⟩⟩
  · obtain rfl : .active plan.procedure [] = thread := by
      simpa [System.start, planned] using found
    cases plan with
    | answered value =>
        simpa [answerAt?, planned, Plan.ending?, Plan.procedure] using Phase.answered value
    | transaction t =>
        simpa [answerAt?, planned, Plan.ending?, Plan.procedure] using Phase.outside t
  · exact List.mem_range.mp (List.mem_filter.mp member).1
  · refine ⟨answered i, fun isSome => List.mem_filter.mpr ⟨?_, isSome⟩⟩
    obtain ⟨ending, found⟩ := Option.isSome_iff_exists.mp isSome
    obtain ⟨plan, planned, -⟩ := Option.bind_eq_some_iff.mp found
    exact List.mem_range.mpr (List.getElem?_eq_some_iff.mp planned).1
  · rw [locks_eq]
    exact Locks.free_fresh
  · rw [state_eq]
    rfl
  · rw [state_eq]
    rfl
  · rw [state_eq]
    exact (List.append_nil _).symm

end ModeSwitch
