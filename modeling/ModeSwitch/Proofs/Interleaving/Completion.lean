import Mathlib.Data.List.Perm.Basic
import ModeSwitch.Proofs.Interleaving.Linearization
import ModeSwitch.Proofs.Interleaving.Termination

/-! What a schedule of transactions comes to.

Until all threads have ended one of them can make a step.  When they have, all plans have taken effect
one after another: every thread has ended as in this course, and the device holds the same attributes
and has received the same calls about each id.
-/

namespace ModeSwitch

open Procedure RecordingDevice

variable {α : Type}

/-- Have all threads ended? -/
def System.Complete (sys : System RecordingDevice α) : Prop :=
  ∀ thread ∈ sys.threads, thread.ending?.isSome = true

structure System.Calm (sys : System RecordingDevice α) : Prop where
  store : sys.state.store.panicking = false
  threads : ∀ thread ∈ sys.threads, thread ≠ .panicked

/-- While no write panics, no thread does. -/
theorem System.Calm.step {sys later : System RecordingDevice α} {i : Nat} (calm : sys.Calm)
    (stepped : sys.step? respond i = some later)
    : later.Calm := by
  obtain ⟨thread, device, locks, thread', found, step, rfl⟩ := step?_eq_some.mp stepped
  have kept : device.store.panicking = false ∧ thread' ≠ .panicked := by
    cases thread with
    | panicked => cases step
    | active rest held =>
        cases rest with
        | done value => cases step
        | ask request next =>
            -- A calm store has an answer to every request and stays calm.
            obtain ⟨reply, answered, quiet⟩ := respond_calm calm.store request
            simp only [Thread.step?, answered] at step
            obtain ⟨rfl, -, rfl⟩ := step
            exact ⟨quiet, by simp⟩
        | note event next =>
            obtain ⟨rfl, -, rfl⟩ := step
            exact ⟨calm.store, by simp⟩
        | acquire lock next =>
            simp only [Thread.step?] at step
            split at step
            · cases step
            · obtain ⟨rfl, -, rfl⟩ := step
              exact ⟨calm.store, by simp⟩
        | release lock next =>
            obtain ⟨rfl, -, rfl⟩ := step
            exact ⟨calm.store, by simp⟩
  refine ⟨kept.1, fun other member => ?_⟩
  rcases List.mem_or_eq_of_mem_set member with before | rfl
  · exact calm.threads other before
  · exact kept.2

/-- A system agrees with a course of its plans in the order `order`. -/
structure Agrees (sys : System RecordingDevice α) (order : List Nat)
    (course : Succession RecordingDevice α) : Prop where
  endings
    : order.map (fun i => sys.threads[i]?.bind Thread.ending?) = course.endings.map some
  store_eq : sys.state.store = course.state.store
  calls_eq
    : ∀ id,
        callsAbout id sys.state.notifier.calls = callsAbout id course.state.notifier.calls
  displayed
    : ∀ id,
        (Tray.replay sys.state.notifier.calls).get? id
        = (Tray.replay course.state.notifier.calls).get? id

namespace Linearized

variable {plans : List (Plan α)} {first : RecordingDevice} {order : List Nat}
  {ended : Nat → Option (Ending α)} {owed : Nat → List NotifierCall}
  {sys : System RecordingDevice α}

/-- A thread that waits for a lock waits for another thread, and that one can make a step. -/
theorem complete_or_step (h : Linearized plans first order ended owed sys)
    : sys.Complete ∨ ∃ i later, sys.step? respond i = some later := by
  by_cases moves : ∃ i later, sys.step? respond i = some later
  · exact .inr moves
  · have stuck : ∀ (i : Nat) (thread : Thread α), sys.threads[i]? = some thread →
        thread.step? respond sys.state sys.locks = none := by
      intro i thread found
      cases stepped : thread.step? respond sys.state sys.locks with
      | none => rfl
      | some after =>
          obtain ⟨device, locks, thread'⟩ := after
          exact (moves ⟨i, _, System.step?_eq_some.mpr
            ⟨thread, device, locks, thread', found, stepped, rfl⟩⟩).elim
    refine .inl fun thread member => ?_
    obtain ⟨i, found⟩ := List.mem_iff_getElem?.mp member
    obtain ⟨plan, planned⟩ := h.exists_plan found
    rcases ((h.phases i plan thread planned found).of_stuck (stuck i thread found)).2 with
      ends | ⟨t, -, held⟩
    · exact ends
    · -- The lock is held by some thread, and a thread that holds a lock is never stuck.
      obtain ⟨j, other, found', holding⟩ := (h.exclusive.held_iff t.lock).mp held
      obtain ⟨plan', planned'⟩ := h.exists_plan found'
      have nothing := ((h.phases j plan' other planned' found').of_stuck
        (stuck j other found')).1
      rw [nothing] at holding
      cases holding

/-- A complete system agrees with the course of its plans: all have taken effect, and nobody owes a
call. -/
theorem agrees (h : Linearized plans first order ended owed sys) (complete : sys.Complete)
    : order.Perm (List.range plans.length) ∧ Agrees sys order (courseOf plans first order) := by
  have ends : ∀ i, i < plans.length →
      sys.threads[i]?.bind Thread.ending? = ended i ∧ (ended i).isSome = true ∧ owed i = [] := by
    intro i inside
    obtain ⟨thread, found⟩ := h.exists_thread inside
    obtain ⟨ending, ending_eq⟩ :=
      Option.isSome_iff_exists.mp (complete _ (List.mem_of_getElem? found))
    obtain ⟨ended_eq, nothing⟩ :=
      (h.phases i _ _ (List.getElem?_eq_getElem inside) found).of_ended ending_eq
    rw [found, ended_eq]
    exact ⟨ending_eq, rfl, nothing⟩
  have nothing : ∀ i, owed i = [] := by
    intro i
    by_cases inside : i < plans.length
    · exact (ends i inside).2.2
    · exact h.outside i (by omega)
  have calls_eq := h.calls.callsAbout_eq nothing
  refine ⟨?_, ?_, h.store_eq.symm, calls_eq, fun id => Tray.get?_replay_congr (calls_eq id)⟩
  · refine (List.perm_ext_iff_of_nodup h.nodup List.nodup_range).mpr fun i => ?_
    rw [List.mem_range]
    exact ⟨h.inside i, fun inside => (h.settled i).mpr (ends i inside).2.1⟩
  · rw [h.endings]
    exact List.map_congr_left fun i member => (ends i (h.inside i member)).1

end Linearized

/-- Whoever makes its last step before another one makes its first is earlier in an order. -/
def Respects (schedule order : List Nat) : Prop :=
  ∀ before after i j,
    schedule = before ++ after
    → i ∈ before → i ∉ after
    → j ∉ before → j ∈ after
    → [i, j].Sublist order

/-- A thread that has ended makes no further step, whatever the others do. -/
theorem System.not_mem_of_done {σ : Type} {respond : Responder σ} {sys later : System σ α} {i : Nat}
    {value : α} {held : List Nat} (found : sys.threads[i]? = some (.active (.done value) held))
    {schedule : List Nat} (ran : sys.run? respond schedule = some later)
    : i ∉ schedule := by
  induction schedule generalizing sys with
  | nil => simp
  | cons k rest ih =>
      obtain ⟨middle, stepped, ran⟩ := run?_cons_eq_some.mp ran
      obtain ⟨thread, state, locks, thread', found', step, rfl⟩ := step?_eq_some.mp stepped
      have other : k ≠ i := by
        rintro rfl
        obtain rfl := Option.some.inj (found.symm.trans found')
        cases step
      have stays : (sys.threads.set k thread')[i]? = some (.active (.done value) held) := by
        rw [List.getElem?_set_ne other, found]
      simpa [Ne.symm other] using ih stays ran

section Start

variable {plans : List (Plan α)} {first : RecordingDevice} {schedule : List Nat}
  {later : System RecordingDevice α}

/-- The order in which plans take effect: first those that are answered at once, then the transactions
in the order of their writes. -/
def effectOrder (plans : List (Plan α)) (first : RecordingDevice) (schedule : List Nat) : List Nat :=
  answeredOf plans
    ++ (System.start first (plans.map Plan.procedure)).writers respond schedule

/-- Plans take effect between their first and their last step, so the order in which they do respects
the schedule. -/
theorem respects_effectOrder
    (ran : (System.start first (plans.map Plan.procedure)).run? respond schedule = some later)
    (all : ∀ i, i < plans.length → i ∈ effectOrder plans first schedule)
    : Respects schedule (effectOrder plans first schedule) := by
  rintro before after i j rfl inBefore notAfter notBefore inAfter
  obtain ⟨middle, ranBefore, ranAfter⟩ :=
    Option.bind_eq_some_iff.mp (System.run?_append ▸ ran)
  have writes : ∀ k ∈ before ++ after,
      k ∈ (System.start first (plans.map Plan.procedure)).writers respond (before ++ after) := by
    intro k steps
    have inside : k < plans.length := by
      simpa [System.start] using System.lt_length_of_mem ran k steps
    -- A plan that is answered at once makes no step at all.
    rcases List.mem_append.mp (all k inside) with answered | writes
    · obtain ⟨ending, found⟩ := Option.isSome_iff_exists.mp (List.mem_filter.mp answered).2
      obtain ⟨plan, planned, ends⟩ := Option.bind_eq_some_iff.mp found
      cases plan with
      | transaction t => cases ends
      | answered value =>
          have done : (System.start first (plans.map Plan.procedure)).threads[k]?
              = some (.active (.done value) []) := by
            simp [System.start, planned, Plan.procedure]
          exact (System.not_mem_of_done done ran steps).elim
    · exact writes
  have writers_eq := System.writers_append ranBefore after
  have early : i ∈ (System.start first (plans.map Plan.procedure)).writers respond before := by
    have written := writes i (by simp [inBefore])
    rw [writers_eq, List.mem_append] at written
    exact written.resolve_right fun late => notAfter (middle.writers_subset after late)
  have late : j ∈ middle.writers respond after := by
    have written := writes j (by simp [inAfter])
    rw [writers_eq, List.mem_append] at written
    exact written.resolve_left fun early =>
      notBefore ((System.start first (plans.map Plan.procedure)).writers_subset before early)
  rw [effectOrder, writers_eq]
  exact ((List.singleton_sublist.mpr early).append (List.singleton_sublist.mpr late)).trans
    (List.sublist_append_right ..)

end Start

end ModeSwitch
