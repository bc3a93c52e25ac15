import ModeSwitch.Proofs.Interleaving.System

/-! Who holds which lock.

The table of locks tells which locks are held, and every lock is held by one thread at most.  Each
step keeps this, as long as a thread returns only what it holds.
-/

namespace ModeSwitch

variable {σ α : Type}

/-- What a step of a thread does to the locks that it holds and to the table of all locks. -/
inductive Locking (held : List Nat) (locks : Locks) : List Nat → Locks → Prop where
  /-- The step concerns no lock. -/
  | keeps : Locking held locks held locks
  /-- A free lock is taken. -/
  | takes (lock : Nat) (free : (locks lock).held = false)
    : Locking held locks (lock :: held) (locks.take lock)
  /-- The only lock is returned, poisoned or not. -/
  | returns (lock : Nat) (locks' : Locks) (owned : held = [lock])
    (freed : (locks' lock).held = false) (others : ∀ other ≠ lock, locks' other = locks other)
    : Locking held locks [] locks'

namespace System

/-- Does a thread hold a lock? -/
def Holds (sys : System σ α) (i lock : Nat) : Prop :=
  ∃ thread, sys.threads[i]? = some thread ∧ lock ∈ thread.held

/-- The table of locks agrees with what the threads hold. -/
structure Exclusive (sys : System σ α) : Prop where
  held_iff : ∀ lock, (sys.locks lock).held = true ↔ ∃ i, sys.Holds i lock
  unique : ∀ i j lock, sys.Holds i lock → sys.Holds j lock → i = j

/-- At the beginning nobody holds a lock. -/
theorem exclusive_start (state : σ) (procedures : List (Procedure α))
    : (start state procedures).Exclusive := by
  have nobody : ∀ i lock, ¬ (start state procedures).Holds i lock := by
    rintro i lock ⟨thread, found, member⟩
    simp only [start, List.getElem?_map, Option.map_eq_some_iff] at found
    obtain ⟨procedure, -, rfl⟩ := found
    cases member
  refine ⟨fun lock => ?_, fun i j lock holds => (nobody i lock holds).elim⟩
  have free : ((start state procedures).locks lock).held = false := rfl
  simp [nobody, free]

variable {sys : System σ α} {i : Nat} {thread thread' : Thread α}

/-- A step of one thread changes what this thread holds and nothing else. -/
theorem holds_set (found : sys.threads[i]? = some thread) (state : σ) (locks : Locks)
    (thread' : Thread α) (j lock : Nat)
    : (⟨state, locks, sys.threads.set i thread'⟩ : System σ α).Holds j lock
      ↔ if j = i then lock ∈ thread'.held else sys.Holds j lock := by
  have inside : i < sys.threads.length := (List.getElem?_eq_some_iff.mp found).1
  by_cases same : j = i
  · subst same
    simp [Holds, inside]
  · have other : i ≠ j := fun h => same h.symm
    simp [Holds, same, other]

/-- A thread holds what its list of locks tells. -/
theorem holds_iff (found : sys.threads[i]? = some thread) (lock : Nat)
    : sys.Holds i lock ↔ lock ∈ thread.held := by
  simp [Holds, found]

/-- A step keeps the table in agreement with the threads, whichever way it uses the locks: a lock
that is taken was free, so nobody else holds it, and nobody else holds one that is returned. -/
theorem Exclusive.step (h : sys.Exclusive) (found : sys.threads[i]? = some thread)
    {locks' : Locks} (locking : Locking thread.held sys.locks thread'.held locks') (state : σ)
    : (⟨state, locks', sys.threads.set i thread'⟩ : System σ α).Exclusive := by
  have set_iff := holds_set found state locks' thread'
  have own := holds_iff found
  generalize later_eq : (⟨state, locks', sys.threads.set i thread'⟩ : System σ α) = later at *
  have locks_eq : later.locks = locks' := by rw [← later_eq]
  generalize thread.held = held at *
  generalize thread'.held = held' at *
  cases locking with
  | keeps =>
      have same : ∀ j lock, later.Holds j lock ↔ sys.Holds j lock := by
        intro j lock
        rw [set_iff]
        split
        · rename_i here
          rw [here, own]
        · rfl
      refine ⟨fun lock => ?_, fun j k lock hj hk => ?_⟩
      · simp only [locks_eq, same, h.held_iff lock]
      · exact h.unique j k lock ((same j lock).mp hj) ((same k lock).mp hk)
  | takes lock free =>
      -- The table told that the lock was free, so the thread that takes it is the only holder.
      have nobody : ∀ j, ¬ sys.Holds j lock := by
        intro j holds
        rw [(h.held_iff lock).mpr ⟨j, holds⟩] at free
        cases free
      have more : ∀ j other, later.Holds j other ↔ sys.Holds j other ∨ j = i ∧ other = lock := by
        intro j other
        rw [set_iff]
        split
        · rename_i here
          simp [here, own, or_comm]
        · rename_i elsewhere
          simp [elsewhere]
      refine ⟨fun other => ?_, fun j k other hj hk => ?_⟩
      · rw [locks_eq]
        by_cases same : other = lock
        · subst same
          simp [more]
        · simp [more, same, Locks.take_of_ne same, h.held_iff other]
      · rcases (more j other).mp hj with hj | ⟨rfl, rfl⟩
        · rcases (more k other).mp hk with hk | ⟨rfl, rfl⟩
          · exact h.unique j k other hj hk
          · exact (nobody j hj).elim
        · rcases (more k other).mp hk with hk | ⟨rfl, -⟩
          · exact (nobody k hk).elim
          · rfl
  | returns lock _ owned freed others =>
      subst owned
      -- Only the thread that returns the lock held it, so nobody holds it afterwards.
      have owner : ∀ j, sys.Holds j lock → j = i :=
        fun j holds => h.unique j i lock holds ((own lock).mpr (List.mem_singleton.mpr rfl))
      have fewer : ∀ j other, later.Holds j other ↔ sys.Holds j other ∧ other ≠ lock := by
        intro j other
        rw [set_iff]
        split
        · rename_i here
          simp [here, own]
        · rename_i elsewhere
          refine ⟨fun holds => ⟨holds, ?_⟩, fun both => both.1⟩
          rintro rfl
          exact elsewhere (owner j holds)
      refine ⟨fun other => ?_, fun j k other hj hk => ?_⟩
      · rw [locks_eq]
        by_cases same : other = lock
        · subst same
          simp [fewer, freed]
        · simp [fewer, same, others other same, h.held_iff other]
      · exact h.unique j k other ((fewer j other).mp hj).1 ((fewer k other).mp hk).1

end System

end ModeSwitch
