import ModeSwitch.Proofs.Interleaving.Transactions

/-! The phases of a transaction.

A transaction is outside its lock, approaches its write, settles it, or has returned.  What the write
leads to is known as soon as it is made: from then on the ending and the calls that are still owed are
determined, whatever others do, as long as they leave the written place alone.
-/

namespace ModeSwitch

open Procedure RecordingDevice Toggle

variable {α : Type}

/-- Nothing has happened on the way from a body to what is left of it: where the attributes `present`
are, both end alike and leave the same device. -/
structure Continues (present : AttrPath → Bool) (body rest : Procedure α) : Prop where
  ending_eq
    : ∀ device : RecordingDevice,
        (∀ path, device.store.holds path = present path)
        → (body.run respond device .fresh).ending = (rest.run respond device .fresh).ending
  state_eq
    : ∀ device : RecordingDevice,
        (∀ path, device.store.holds path = present path)
        → (body.run respond device .fresh).state = (rest.run respond device .fresh).state

namespace Continues

variable {present : AttrPath → Bool} {body : Procedure α}

theorem refl (body : Procedure α) : Continues present body body :=
  ⟨fun _ _ => rfl, fun _ _ => rfl⟩

/-- A look changes nothing, and what it finds is known. -/
theorem probe {path : AttrPath} {next : Bool → Procedure α}
    (h : Continues present body (.ask (.probe path) next))
    : Continues present body (next (present path)) := by
  have looks : ∀ device : RecordingDevice, (∀ path, device.store.holds path = present path) →
      ((Procedure.ask (.probe path) next).run respond device .fresh).ending
        = ((next (present path)).run respond device .fresh).ending
      ∧ ((Procedure.ask (.probe path) next).run respond device .fresh).state
        = ((next (present path)).run respond device .fresh).state := by
    intro device holds
    simp only [run, runHolding, respond_probe, holds path, and_self]
  exact ⟨fun device holds => (h.ending_eq device holds).trans (looks device holds).1,
    fun device holds => (h.state_eq device holds).trans (looks device holds).2⟩

/-- A note changes nothing. -/
theorem note {event : Event} {next : Procedure α}
    (h : Continues present body (.note event next))
    : Continues present body next :=
  ⟨fun device holds => h.ending_eq device holds, fun device holds => h.state_eq device holds⟩

end Continues

/-- The phase of a plan that a thread carries out on a device: whether and how its course will end is
known, and the calls that it still owes. -/
inductive Phase (present : AttrPath → Bool) (device : RecordingDevice)
    : Plan α → Thread α → Option (Ending α) → List NotifierCall → Prop where
  | answered (value : α)
    : Phase present device (.answered value) (.active (.done value) [])
        (some (.finished value)) []
  /-- The lock is not taken yet. -/
  | outside (t : Transaction α)
    : Phase present device (.transaction t) (.active (holding t.lock t.body) []) none []
  /-- The lock is held, and nothing has changed. -/
  | approaching (t : Transaction α) (rest : Procedure α) (commits : rest.Commits t.path t.id?)
    (continues : Continues present t.body rest)
    : Phase present device (.transaction t) (.active (releasing t.lock rest) [t.lock]) none []
  /-- The write is made. -/
  | settling (t : Transaction α) (rest : Procedure α) (only : rest.Only (Settles t.path t.id?))
    {ending : Ending α} {owed : List NotifierCall}
    (ends : (rest.run respond device .fresh).ending = ending)
    (owes : callsOf (rest.run respond device .fresh).requests = owed)
    : Phase present device (.transaction t) (.active (releasing t.lock rest) [t.lock])
        (some ending) owed
  | returned (t : Transaction α) (value : α)
    : Phase present device (.transaction t) (.active (.done value) []) (some (.finished value)) []
  | panicked (t : Transaction α)
    : Phase present device (.transaction t) .panicked (some .panicked) []

/-- A thread that holds its lock and touches no other one returns it or keeps it. -/
theorem locking_releasing {rest : Procedure α} (lockless : rest.Lockless) {lock : Nat}
    {device device' : RecordingDevice} {locks locks' : Locks} {thread : Thread α}
    (stepped
      : (Thread.active (releasing lock rest) [lock]).step? respond device locks
        = some (device', locks', thread))
    : Locking [lock] locks thread.held locks' := by
  cases rest with
  | done value =>
      obtain ⟨-, rfl, rfl⟩ := stepped
      have emptied : (Thread.active (Procedure.done value) ([lock].erase lock)).held = [] := by
        simp [Thread.held]
      rw [emptied]
      exact .returns lock _ rfl (by simp [Locks.giveBack, Locks.set])
        fun other hne => by simp [Locks.giveBack, Locks.set, hne]
  | ask request next =>
      simp only [releasing, Procedure.bind, Thread.step?] at stepped
      split at stepped
      · obtain ⟨-, rfl, rfl⟩ := stepped
        exact .returns lock _ rfl (by simp [Locks.poison, Locks.set])
          fun other hne => by simp [Locks.poison, Locks.set, hne]
      · obtain ⟨-, rfl, rfl⟩ := stepped
        exact .keeps
  | note event next =>
      obtain ⟨-, rfl, rfl⟩ := stepped
      exact .keeps
  | acquire lock next => exact lockless.elim
  | release lock next => exact lockless.elim

/-- A thread writes when what is left inside its lock begins with a write. -/
theorem exists_write_of_isWriting {rest : Procedure α} {lock : Nat} {held : List Nat}
    (writing : (Thread.active (releasing lock rest) held).isWriting = true)
    : ∃ path line next, rest = .ask (.write path line) next := by
  cases rest with
  | done value => cases writing
  | ask request next =>
      cases request with
      | write path line => exact ⟨path, line, next, rfl⟩
      | probe path => cases writing
      | read path => cases writing
      | withdraw id => cases writing
      | post notification => cases writing
  | note event next => cases writing
  | acquire lock next => cases writing
  | release lock next => cases writing

namespace Phase

variable {present : AttrPath → Bool} {device device' : RecordingDevice} {plan : Plan α}
  {thread thread' : Thread α} {ended : Option (Ending α)} {owed : List NotifierCall}
  {locks locks' : Locks}

/-- A plan takes its lock when it is free and returns it at its end. -/
theorem locking (phase : Phase present device plan thread ended owed)
    (stepped : thread.step? respond device locks = some (device', locks', thread'))
    : Locking thread.held locks thread'.held locks' := by
  cases phase with
  | answered value => cases stepped
  | outside t =>
      simp only [holding_eq, Thread.step?] at stepped
      split at stepped
      · cases stepped
      · rename_i free
        obtain ⟨-, rfl, rfl⟩ := stepped
        exact .takes t.lock (by simpa using free)
  | approaching t rest commits continues => exact locking_releasing commits.lockless stepped
  | settling t rest only ends owes => exact locking_releasing only.lockless stepped
  | returned t value => cases stepped
  | panicked t => cases stepped

/-- The thread of a transaction holds its lock if it holds any. -/
theorem held_of_ne_nil {t : Transaction α}
    (phase : Phase present device (.transaction t) thread ended owed) (holds : thread.held ≠ [])
    : t.lock ∈ thread.held := by
  cases phase with
  | outside => exact (holds rfl).elim
  | approaching rest commits continues => exact List.mem_singleton.mpr rfl
  | settling rest only ends owes => exact List.mem_singleton.mpr rfl
  | returned value => exact (holds rfl).elim
  | panicked => exact (holds rfl).elim

/-- A step that does not write lets the service receive calls that were owed, and nothing else happens.
Before the write nothing is owed. -/
theorem step_quiet (phase : Phase present device plan thread ended owed)
    (holds : ∀ path, device.store.holds path = present path)
    (stepped : thread.step? respond device locks = some (device', locks', thread'))
    (quiet : thread.isWriting = false)
    : ∃ sent rest,
        owed = sent ++ rest
        ∧ device' = device.receiving sent
        ∧ Phase present device' plan thread' ended rest := by
  cases phase with
  | answered value => cases stepped
  | outside t =>
      simp only [holding_eq, Thread.step?] at stepped
      split at stepped
      · cases stepped
      · obtain ⟨rfl, -, rfl⟩ := stepped
        exact ⟨[], [], rfl, (receiving_nil device).symm,
          .approaching t t.body t.commits (.refl t.body)⟩
  | approaching t rest commits continues =>
      cases rest with
      | done value => exact commits.elim
      | ask request next =>
          cases request with
          | probe path =>
              obtain ⟨rfl, -, rfl⟩ := stepped
              -- The answer is the one that the whole course gives: no attribute appears or vanishes.
              have went : next (device.store.holds path) = next (present path) := by
                rw [holds path]
              refine ⟨[], [], rfl, (receiving_nil device).symm, ?_⟩
              refine .approaching t (next (device.store.holds path)) (commits _) ?_
              rw [went]
              exact continues.probe
          | write path line => cases quiet
          | read path => exact commits.elim
          | withdraw id => exact commits.elim
          | post notification => exact commits.elim
      | note event next =>
          obtain ⟨rfl, -, rfl⟩ := stepped
          exact ⟨[], [], rfl, (receiving_nil device).symm,
            .approaching t next commits continues.note⟩
      | acquire lock next => exact commits.elim
      | release lock next => exact commits.elim
  | settling t rest only ends owes =>
      cases rest with
      | done value =>
          obtain ⟨rfl, -, rfl⟩ := stepped
          subst ends owes
          have emptied : [t.lock].erase t.lock = [] := by simp
          rw [emptied]
          exact ⟨[], [], rfl, (receiving_nil device).symm, .returned t value⟩
      | ask request next =>
          obtain ⟨reply, reaction⟩ := respond_settles only.1 device
          simp only [releasing, Procedure.bind, Thread.step?, reaction] at stepped
          obtain ⟨rfl, -, rfl⟩ := stepped
          simp only [run, runHolding, reaction, callsOf_cons] at ends owes
          -- The call of this request is the first of those that were owed.
          exact ⟨_, _, owes.symm, rfl, .settling t (next reply) (only.2 reply) ends rfl⟩
      | note event next =>
          obtain ⟨rfl, -, rfl⟩ := stepped
          exact ⟨[], owed, rfl, (receiving_nil device).symm, .settling t next only ends owes⟩
      | acquire lock next => exact only.elim
      | release lock next => exact only.elim
  | returned t value => cases stepped
  | panicked t => cases stepped

/-- What others do does not matter as long as a thread that holds its lock cannot tell it. -/
theorem frame (phase : Phase present device plan thread ended owed)
    (alike
      : ∀ t,
          plan = .transaction t
          → t.lock ∈ thread.held
          → device'.Alike t.path device)
    : Phase present device' plan thread ended owed := by
  cases phase with
  | answered value => exact .answered value
  | outside t => exact .outside t
  | approaching t rest commits continues => exact .approaching t rest commits continues
  | settling t rest only ends owes =>
      obtain ⟨ending_eq, requests_eq⟩ :=
        (alike t rfl (List.mem_singleton.mpr rfl)).settles_eq only
      exact .settling t rest only (ending_eq.trans ends) (requests_eq ▸ owes)
  | returned t value => exact .returned t value
  | panicked t => exact .panicked t

/-- A thread that cannot make a step has ended or waits for its lock, and it holds none. -/
theorem of_stuck (phase : Phase present device plan thread ended owed)
    (stuck : thread.step? respond device locks = none)
    : thread.held = []
      ∧ (thread.ending?.isSome = true
        ∨ ∃ t, plan = .transaction t ∧ (locks t.lock).held = true) := by
  have goes : ∀ {rest : Procedure α} {lock : Nat}, rest.Lockless →
      (Thread.active (releasing lock rest) [lock]).step? respond device locks ≠ none := by
    intro rest lock lockless none
    cases rest with
    | done value => cases none
    | ask request next =>
        simp only [releasing, Procedure.bind, Thread.step?] at none
        split at none <;> cases none
    | note event next => cases none
    | acquire lock next => exact lockless.elim
    | release lock next => exact lockless.elim
  cases phase with
  | answered value => exact ⟨rfl, .inl rfl⟩
  | outside t =>
      refine ⟨rfl, .inr ⟨t, rfl, ?_⟩⟩
      simp only [holding_eq, Thread.step?] at stuck
      split at stuck
      · assumption
      · cases stuck
  | approaching t rest commits continues => exact (goes commits.lockless stuck).elim
  | settling t rest only ends owes => exact (goes only.lockless stuck).elim
  | returned t value => exact ⟨rfl, .inl rfl⟩
  | panicked t => exact ⟨rfl, .inl rfl⟩

/-- A thread ends as it was known to, and owes nothing then. -/
theorem of_ended {ending : Ending α} (phase : Phase present device plan thread ended owed)
    (ends : thread.ending? = some ending)
    : ended = some ending ∧ owed = [] := by
  have goes : ∀ {rest : Procedure α} {lock : Nat},
      (Thread.active (releasing lock rest) [lock]).ending? = none := by
    intro rest lock
    cases rest <;> rfl
  cases phase with
  | answered value => exact ⟨ends, rfl⟩
  | outside t => cases ends
  | approaching t rest commits continues => rw [goes] at ends; cases ends
  | settling t rest only _ _ => rw [goes] at ends; cases ends
  | returned t value => exact ⟨ends, rfl⟩
  | panicked t => exact ⟨ends, rfl⟩

/-- Only a thread that holds its lock owes calls, and these are about one id. -/
theorem of_owed {call : NotifierCall} (phase : Phase present device plan thread ended owed)
    (member : call ∈ owed)
    : ∃ t, plan = .transaction t ∧ t.lock ∈ thread.held ∧ t.id? = some call.id := by
  cases phase with
  | answered value => cases member
  | outside t => cases member
  | approaching t rest commits continues => cases member
  | settling t rest only ends owes =>
      refine ⟨t, rfl, List.mem_singleton.mpr rfl, ?_⟩
      subst owes
      obtain ⟨request, made, calls⟩ := List.mem_filterMap.mp member
      have settles := only.allowed_of_mem respond [] device .fresh request made
      cases request with
      | probe path => cases calls
      | read path => cases calls
      | write path line => cases calls
      | withdraw id =>
          obtain rfl := Option.some.inj calls
          exact settles
      | post notification =>
          obtain rfl := Option.some.inj calls
          exact settles
  | returned t value => cases member
  | panicked t => cases member

/-- What the write of a transaction leads to, compared with a run of the whole transaction from another
point `alone`: the thread is going to end as this run does, and to make the same calls. -/
structure Commits (present : AttrPath → Bool) (device device' alone : RecordingDevice)
    (t : Transaction α) (thread' : Thread α) (calls : List NotifierCall) : Prop where
  phase
    : Phase present device' (.transaction t) thread'
        (some (t.body.run respond alone .fresh).ending) calls
  state_eq
    : (t.body.run respond alone .fresh).state
      = RecordingDevice.receiving ⟨device'.store, alone.notifier⟩ calls
  notifier_eq : device'.notifier = device.notifier
  store_eq
    : device'.store = device.store ∨ ∃ line, device'.store = device.store.accepting t.path line

/-- A write reaches no place but the one of its transaction, and the recorder learns nothing of it. -/
theorem Commits.alike {alone : RecordingDevice} {t : Transaction α} {calls : List NotifierCall}
    (commits : Commits present device device' alone t thread' calls) {path : AttrPath}
    (elsewhere : ¬ path.SamePlace t.path)
    : device'.Alike path device := by
  refine ⟨?_, by simp only [answer, commits.notifier_eq]⟩
  rcases commits.store_eq with unchanged | ⟨line, written⟩
  · rw [unchanged]
  · rw [written, device.store.readAt_accepting_of_ne elsewhere line]

/-- A write adds no attribute and removes none. -/
theorem Commits.holds_eq {alone : RecordingDevice} {t : Transaction α} {calls : List NotifierCall}
    (commits : Commits present device device' alone t thread' calls) (path : AttrPath)
    : device'.store.holds path = device.store.holds path := by
  rcases commits.store_eq with unchanged | ⟨line, written⟩
  · rw [unchanged]
  · rw [written, device.store.holds_accepting]

/-- The write of a transaction leads to what the whole transaction does on any device with the same
store: the store answers alike and is left alike, and what follows cannot tell the devices apart. -/
theorem commits_of_write {alone : RecordingDevice} (t : Transaction α) {line : String}
    {next : Except StoreError Unit → Procedure α}
    (settles : ∀ reply, (next reply).Only (Settles t.path t.id?))
    (continues : Continues present t.body (.ask (.write t.path line) next))
    (holds : ∀ path, alone.store.holds path = present path)
    (store_eq : alone.store = device.store)
    (failing_eq : alone.notifier.failing = device.notifier.failing)
    (stepped
      : (Thread.active (releasing t.lock (.ask (.write t.path line) next)) [t.lock]).step?
          respond device locks
        = some (device', locks', thread'))
    : ∃ calls, Commits present device device' alone t thread' calls := by
  have ending_eq := continues.ending_eq alone holds
  have state_eq := continues.state_eq alone holds
  have written := device.store.write_state t.path line
  simp only [run, runHolding, respond_write, Device.ofStore, store_eq] at ending_eq state_eq
  simp only [releasing, Procedure.bind, Thread.step?, respond_write, Device.ofStore] at stepped
  generalize MemoryStore.service.write t.path line device.store = reaction at *
  have stored : reaction.state = device.store
      ∨ ∃ line, reaction.state = device.store.accepting t.path line :=
    written.imp_right fun accepted => ⟨line, accepted⟩
  cases answered : reaction.reply with
  | none =>
      simp only [answered] at ending_eq state_eq stepped
      obtain ⟨rfl, -, rfl⟩ := stepped
      refine ⟨[], ?_, state_eq.trans (receiving_nil _).symm, rfl, stored⟩
      rw [Procedure.run, ending_eq]
      exact .panicked t
  | some reply =>
      simp only [answered] at ending_eq state_eq stepped
      obtain ⟨rfl, -, rfl⟩ := stepped
      -- The two recorders may hold different calls, but they answer alike.
      have alike : Alike t.path (⟨reaction.state, alone.notifier⟩ : RecordingDevice)
          ⟨reaction.state, device.notifier⟩ :=
        ⟨rfl, by simp only [answer, failing_eq]⟩
      obtain ⟨ends, requests⟩ := alike.settles_eq (settles reply)
      refine ⟨callsOf ((next reply).run respond ⟨reaction.state, alone.notifier⟩ .fresh).requests,
        ?_, ?_, rfl, stored⟩
      · refine .settling t (next reply) (settles reply) ?_ (congrArg callsOf requests.symm)
        exact ends.symm.trans ending_eq.symm
      · exact state_eq.trans (settles_state (settles reply) [] _ .fresh)

/-- A step that writes is the write of a transaction that has changed nothing before. -/
theorem step_writing {alone : RecordingDevice} (phase : Phase present device plan thread ended owed)
    (holds : ∀ path, device.store.holds path = present path)
    (store_eq : alone.store = device.store)
    (failing_eq : alone.notifier.failing = device.notifier.failing)
    (stepped : thread.step? respond device locks = some (device', locks', thread'))
    (writing : thread.isWriting = true)
    : ended = none
      ∧ owed = []
      ∧ ∃ t, plan = .transaction t ∧ t.lock ∈ thread.held
        ∧ ∃ calls, Commits present device device' alone t thread' calls := by
  cases phase with
  | answered value => cases writing
  | outside t => cases writing
  | approaching t rest commits continues =>
      obtain ⟨path, line, next, rfl⟩ := exists_write_of_isWriting writing
      obtain ⟨rfl, settles⟩ := commits
      exact ⟨rfl, rfl, t, rfl, List.mem_singleton.mpr rfl,
        commits_of_write t settles continues (fun path => store_eq ▸ holds path) store_eq
          failing_eq stepped⟩
  | settling t rest only ends owes =>
      -- Nothing is written once the write is made.
      obtain ⟨path, line, next, rfl⟩ := exists_write_of_isWriting writing
      exact only.1.elim
  | returned t value => cases writing
  | panicked t => cases writing

end Phase

end ModeSwitch
