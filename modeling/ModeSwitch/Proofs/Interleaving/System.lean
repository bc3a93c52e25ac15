import ModeSwitch.Proofs.Procedure.Holding

/-! Procedures that are carried out at the same time.

A system holds one device, the locks, and a thread for each procedure.  A schedule names the threads
in the order in which they make their steps: a request, a note, the taking of a free lock or the
return of one.
-/

namespace ModeSwitch

variable {σ α : Type}

/-- A procedure on its way, with the locks that it holds. -/
inductive Thread (α : Type) where
  | active (rest : Procedure α) (held : List Nat)
  | panicked

namespace Thread

def held : Thread α → List Nat
  | .active _ held => held
  | .panicked => []

def ending? : Thread α → Option (Ending α)
  | .active (.done value) _ => some (.finished value)
  | .active _ _ => none
  | .panicked => some .panicked

/-- The step of a thread: the state, the locks and the thread after it.  A thread that ended makes
none, and neither does one that waits for a lock. -/
def step? (respond : Responder σ) (state : σ) (locks : Locks)
    : Thread α → Option (σ × Locks × Thread α)
  | .active (.done _) _ => none
  | .active (.ask request next) held =>
      let reaction := respond request state
      match reaction.reply with
      | none => some (reaction.state, held.foldl .poison locks, .panicked)
      | some reply => some (reaction.state, locks, .active (next reply) held)
  | .active (.note _ next) held => some (state, locks, .active next held)
  | .active (.acquire lock next) held =>
      if (locks lock).held then none
      else some (state, locks.take lock, .active (next (locks lock).poisoned) (lock :: held))
  | .active (.release lock next) held =>
      some (state, locks.giveBack lock, .active next (held.erase lock))
  | .panicked => none

def isWriting : Thread α → Bool
  | .active (.ask (.write ..) _) _ => true
  | _ => false

end Thread

structure System (σ α : Type) where
  state : σ
  locks : Locks
  threads : List (Thread α)

namespace System

def start (state : σ) (procedures : List (Procedure α)) : System σ α :=
  ⟨state, .fresh, procedures.map (.active · [])⟩

variable (respond : Responder σ)

def step? (sys : System σ α) (i : Nat) : Option (System σ α) :=
  match sys.threads[i]? with
  | none => none
  | some thread =>
      (thread.step? respond sys.state sys.locks).map fun (state, locks, thread) =>
        ⟨state, locks, sys.threads.set i thread⟩

/-- The system after the steps of a schedule, if each of them is possible. -/
def run? (sys : System σ α) : List Nat → Option (System σ α)
  | [] => some sys
  | i :: rest => (sys.step? respond i).bind (run? · rest)

/-- The threads that write during a schedule, in the order of their writes. -/
def writers (sys : System σ α) : List Nat → List Nat
  | [] => []
  | i :: rest =>
      let now := if (sys.threads[i]?).any Thread.isWriting then [i] else []
      now ++ ((sys.step? respond i).map (writers · rest)).getD []

variable {respond} {sys later : System σ α} {i : Nat}

/-- A system makes a step when a thread does. -/
theorem step?_eq_some
    : sys.step? respond i = some later
      ↔ ∃ thread state locks thread',
          sys.threads[i]? = some thread
          ∧ thread.step? respond sys.state sys.locks = some (state, locks, thread')
          ∧ later = ⟨state, locks, sys.threads.set i thread'⟩ := by
  unfold step?
  cases sys.threads[i]? with
  | none => simp
  | some thread =>
      simp only [Option.map_eq_some_iff, Option.some.injEq]
      constructor
      · rintro ⟨⟨state, locks, thread'⟩, stepped, rfl⟩
        exact ⟨thread, state, locks, thread', rfl, stepped, rfl⟩
      · rintro ⟨_, state, locks, thread', rfl, stepped, rfl⟩
        exact ⟨(state, locks, thread'), stepped, rfl⟩

/-- A schedule that begins with a step goes on from what the step leaves. -/
theorem run?_cons_eq_some {rest : List Nat} {final : System σ α}
    : sys.run? respond (i :: rest) = some final
      ↔ ∃ later, sys.step? respond i = some later ∧ later.run? respond rest = some final := by
  simp [run?, Option.bind_eq_some_iff]

/-- The writers of a schedule after its first step. -/
theorem writers_cons {thread : Thread α} (found : sys.threads[i]? = some thread)
    (stepped : sys.step? respond i = some later) (rest : List Nat)
    : sys.writers respond (i :: rest)
      = (if thread.isWriting then [i] else []) ++ later.writers respond rest := by
  simp [writers, found, stepped]

/-- The writers of a schedule in two parts are those of the parts. -/
theorem writers_append {before : List Nat} (ran : sys.run? respond before = some later)
    (after : List Nat)
    : sys.writers respond (before ++ after)
      = sys.writers respond before ++ later.writers respond after := by
  induction before generalizing sys with
  | nil =>
      obtain rfl := Option.some.inj ran
      rfl
  | cons i rest ih =>
      obtain ⟨middle, stepped, ran⟩ := run?_cons_eq_some.mp ran
      simp [writers, stepped, ih ran]

/-- Only threads that make a step of a schedule write during it. -/
theorem writers_subset (sys : System σ α) (schedule : List Nat)
    : sys.writers respond schedule ⊆ schedule := by
  induction schedule generalizing sys with
  | nil => exact fun i member => member
  | cons i rest ih =>
      intro j member
      simp only [writers, List.mem_append] at member
      rcases member with now | later
      · split at now
        · exact List.mem_singleton.mp now ▸ List.mem_cons_self
        · cases now
      · cases stepped : sys.step? respond i with
        | none => simp [stepped] at later
        | some middle =>
            simp only [stepped, Option.map_some, Option.getD_some] at later
            exact List.mem_cons_of_mem _ (ih middle later)

/-- A schedule in two parts is possible when the parts are. -/
theorem run?_append {before after : List Nat}
    : sys.run? respond (before ++ after)
      = (sys.run? respond before).bind (·.run? respond after) := by
  induction before generalizing sys with
  | nil => rfl
  | cons i rest ih =>
      cases stepped : sys.step? respond i <;> simp [run?, stepped, ih]

/-- What every possible step keeps, every possible schedule keeps. -/
theorem run?_invariant {Kept : System σ α → Prop}
    (keeps : ∀ sys i later, Kept sys → sys.step? respond i = some later → Kept later)
    {schedule : List Nat} (ran : sys.run? respond schedule = some later) (before : Kept sys)
    : Kept later := by
  induction schedule generalizing sys with
  | nil =>
      obtain rfl := Option.some.inj ran
      exact before
  | cons i rest ih =>
      obtain ⟨middle, stepped, ran⟩ := run?_cons_eq_some.mp ran
      exact ih ran (keeps _ _ _ before stepped)

end System

end ModeSwitch
