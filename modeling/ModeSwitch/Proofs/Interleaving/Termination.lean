import Mathlib.Algebra.BigOperators.Group.Finset.Basic
import Mathlib.Algebra.Order.BigOperators.Group.Finset
import ModeSwitch.Proofs.Interleaving.System

/-! How long a schedule can be.

A procedure whose courses are short makes few steps.  A schedule of such procedures is short as well,
whatever the order of its steps.
-/

namespace ModeSwitch

variable {σ α β : Type}

/-- Every course of a procedure ends within a number of steps. -/
def Procedure.EndsWithin : Nat → Procedure α → Prop
  | _, .done _ => True
  | 0, _ => False
  | n + 1, .ask _ next => ∀ reply, (next reply).EndsWithin n
  | n + 1, .note _ next => next.EndsWithin n
  | n + 1, .acquire _ next => ∀ poisoned, (next poisoned).EndsWithin n
  | n + 1, .release _ next => next.EndsWithin n

namespace Procedure

/-- A larger bound is a weaker promise. -/
theorem EndsWithin.mono {p : Procedure α} {m n : Nat} (h : p.EndsWithin m) (le : m ≤ n)
    : p.EndsWithin n := by
  induction p generalizing m n with
  | done value => cases n <;> trivial
  | ask request next ih =>
      obtain _ | m := m
      · exact h.elim
      obtain _ | n := n
      · exact absurd le (by omega)
      exact fun reply => ih reply (h reply) (by omega)
  | note event next ih =>
      obtain _ | m := m
      · exact h.elim
      obtain _ | n := n
      · exact absurd le (by omega)
      exact ih h (by omega)
  | acquire lock next ih =>
      obtain _ | m := m
      · exact h.elim
      obtain _ | n := n
      · exact absurd le (by omega)
      exact fun poisoned => ih poisoned (h poisoned) (by omega)
  | release lock next ih =>
      obtain _ | m := m
      · exact h.elim
      obtain _ | n := n
      · exact absurd le (by omega)
      exact ih h (by omega)

/-- One procedure after another ends within the sum of their bounds. -/
theorem EndsWithin.bind {p : Procedure α} {f : α → Procedure β} {m : Nat}
    (first : p.EndsWithin m) (n : Nat) (rest : ∀ value, (f value).EndsWithin n)
    : (p.bind f).EndsWithin (n + m) := by
  induction p generalizing m with
  | done value => exact (rest value).mono (by omega)
  | ask request next ih =>
      obtain _ | m := m
      · exact first.elim
      exact fun reply => ih reply (first reply)
  | note event next ih =>
      obtain _ | m := m
      · exact first.elim
      exact ih first
  | acquire lock next ih =>
      obtain _ | m := m
      · exact first.elim
      exact fun poisoned => ih poisoned (first poisoned)
  | release lock next ih =>
      obtain _ | m := m
      · exact first.elim
      exact ih first

end Procedure

namespace Thread

def EndsWithin (n : Nat) : Thread α → Prop
  | .active rest _ => rest.EndsWithin n
  | .panicked => True

variable {respond : Responder σ} {state state' : σ} {locks locks' : Locks}
  {thread thread' : Thread α}

/-- A step uses up one of the steps that are left. -/
theorem EndsWithin.step {n : Nat} (h : thread.EndsWithin n)
    (stepped : thread.step? respond state locks = some (state', locks', thread'))
    : ∃ m, n = m + 1 ∧ thread'.EndsWithin m := by
  cases thread with
  | panicked => cases stepped
  | active rest held =>
      -- With no steps left only a finished procedure is within the bound, and it makes none.
      obtain _ | n := n
      · cases rest with
        | done value => cases stepped
        | ask request next => exact h.elim
        | note event next => exact h.elim
        | acquire lock next => exact h.elim
        | release lock next => exact h.elim
      · refine ⟨n, rfl, ?_⟩
        cases rest with
        | done value => cases stepped
        | ask request next =>
            simp only [step?] at stepped
            split at stepped
            · obtain ⟨-, -, rfl⟩ := stepped
              trivial
            · obtain ⟨-, -, rfl⟩ := stepped
              exact h _
        | note event next =>
            obtain ⟨-, -, rfl⟩ := stepped
            exact h
        | acquire lock next =>
            simp only [step?] at stepped
            split at stepped
            · cases stepped
            · obtain ⟨-, -, rfl⟩ := stepped
              exact h _
        | release lock next =>
            obtain ⟨-, -, rfl⟩ := stepped
            exact h

end Thread

namespace System

variable {respond : Responder σ} {sys later : System σ α} {schedule : List Nat}

/-- No thread makes more steps than it has left, by induction on the schedule. -/
theorem count_le {bound : Nat → Nat}
    (bounded : ∀ (i : Nat) (thread : Thread α), sys.threads[i]? = some thread →
      thread.EndsWithin (bound i))
    (ran : sys.run? respond schedule = some later)
    : ∀ i, schedule.count i ≤ bound i := by
  induction schedule generalizing sys bound with
  | nil => simp
  | cons i rest ih =>
      obtain ⟨middle, stepped, ran⟩ := run?_cons_eq_some.mp ran
      obtain ⟨thread, state, locks, thread', found, step, rfl⟩ := step?_eq_some.mp stepped
      obtain ⟨left, bound_eq, fewer⟩ := (bounded i thread found).step step
      have inside : i < sys.threads.length := (List.getElem?_eq_some_iff.mp found).1
      -- The thread that makes the step has one step less left, the others have as many as before.
      let bound' : Nat → Nat := fun j => if j = i then left else bound j
      have bounded' : ∀ (j : Nat) (threadj : Thread α),
          (sys.threads.set i thread')[j]? = some threadj → threadj.EndsWithin (bound' j) := by
        intro j threadj foundj
        by_cases same : j = i
        · subst same
          obtain rfl : thread' = threadj := by simpa [inside] using foundj
          simpa [bound'] using fewer
        · have other : i ≠ j := fun h => same h.symm
          simp only [ne_eq, other, not_false_eq_true, List.getElem?_set_ne] at foundj
          simpa [bound', same] using bounded j threadj foundj
      intro j
      have count_le := ih bounded' ran j
      by_cases same : j = i
      · subst same
        simp only [bound', if_true] at count_le
        simpa [bound_eq] using count_le
      · have other : ¬ i = j := fun h => same h.symm
        simpa [bound', List.count_cons, same, other] using count_le

/-- Only threads of the system make steps. -/
theorem lt_length_of_mem (ran : sys.run? respond schedule = some later)
    : ∀ i ∈ schedule, i < sys.threads.length := by
  induction schedule generalizing sys with
  | nil => simp
  | cons i rest ih =>
      obtain ⟨middle, stepped, ran⟩ := run?_cons_eq_some.mp ran
      obtain ⟨thread, state, locks, thread', found, step, rfl⟩ := step?_eq_some.mp stepped
      have inside : i < sys.threads.length := (List.getElem?_eq_some_iff.mp found).1
      have others := ih ran
      simp only [List.length_set] at others
      simpa using ⟨inside, others⟩

/-- A schedule of threads that all end within a number of steps has at most that many steps for each
thread. -/
theorem length_le {bound : Nat}
    (bounded : ∀ (i : Nat) (thread : Thread α), sys.threads[i]? = some thread →
      thread.EndsWithin bound)
    (ran : sys.run? respond schedule = some later)
    : schedule.length ≤ bound * sys.threads.length := by
  have counts := count_le bounded ran
  have members : schedule.toFinset ⊆ Finset.range sys.threads.length := by
    intro i member
    exact Finset.mem_range.mpr (lt_length_of_mem ran i (List.mem_toFinset.mp member))
  calc schedule.length
      = ∑ i ∈ schedule.toFinset, schedule.count i := (List.sum_toFinset_count_eq_length _).symm
    _ ≤ ∑ i ∈ Finset.range sys.threads.length, schedule.count i :=
        Finset.sum_le_sum_of_subset members
    _ ≤ ∑ _i ∈ Finset.range sys.threads.length, bound := Finset.sum_le_sum fun i _ => counts i
    _ = bound * sys.threads.length := by simp [Nat.mul_comm]

end System

end ModeSwitch
