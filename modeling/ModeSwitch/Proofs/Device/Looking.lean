import ModeSwitch.Proofs.Device.Recording

/-! Looking at attributes in memory.

A procedure that only looks finds the same in any two stores that hold the same, beside any services
and under any locks, and it leaves everything as it was.
-/

namespace ModeSwitch

/-- Two stores in which a look at any path finds the same.  What their drivers make of writes, and
what was written before, may differ. -/
structure MemoryStore.LooksLike (store other : MemoryStore) : Prop where
  contents_eq : ∀ path, store.contents? path = other.contents? path
  failReads_eq : store.failReads = other.failReads

namespace MemoryStore.LooksLike

variable {store other : MemoryStore}

theorem refl (store : MemoryStore) : store.LooksLike store :=
  ⟨fun _ => rfl, rfl⟩

theorem of_eq (same : store = other) : store.LooksLike other :=
  same ▸ refl store

theorem holds_eq (looks : store.LooksLike other) (path : AttrPath)
    : store.holds path = other.holds path := by
  simp only [holds, looks.contents_eq]

theorem readAt_eq (looks : store.LooksLike other) (path : AttrPath)
    : store.readAt path = other.readAt path := by
  simp only [readAt, looks.contents_eq, looks.failReads_eq]

end MemoryStore.LooksLike

namespace Procedure

variable {α : Type}

/-- What a procedure that only looks finds, asks and notes is settled by what the store holds, by
induction on the procedure: each reply is the same in every store that looks like it. -/
theorem Only.looks {p : Procedure α} (h : p.Only Request.IsQuery) (store : MemoryStore)
    : ∃ value requests events,
        ∀ {ν : Type} (notifier : Notifier ν) (other : MemoryStore) (state : ν) (held : List Nat)
          (locks : Locks),
          store.LooksLike other
          → p.runHolding (Device.responder MemoryStore.service notifier) held ⟨other, state⟩ locks
            = ⟨.finished value, requests, events, ⟨other, state⟩, locks⟩ := by
  induction p with
  | done value => exact ⟨value, [], [], fun _ _ _ _ _ _ => rfl⟩
  | ask request next ih =>
      cases request with
      | probe path =>
          -- The reply is the same in both stores, so the rest is taken at the one of `store`.
          obtain ⟨value, requests, events, found⟩ := ih _ (h.2 (store.holds path))
          refine ⟨value, .probe path :: requests, events, ?_⟩
          intro ν notifier other state held locks looks
          have rest := found notifier other state held locks looks
          rw [looks.holds_eq path] at rest
          have reaction : Device.responder MemoryStore.service notifier (.probe path) ⟨other, state⟩
              = ⟨some (other.holds path), [], ⟨other, state⟩⟩ := rfl
          simp only [runHolding, reaction, rest, List.nil_append]
      | read path =>
          obtain ⟨value, requests, events, found⟩ := ih _ (h.2 (store.readAt path))
          refine ⟨value, .read path :: requests, events, ?_⟩
          intro ν notifier other state held locks looks
          have rest := found notifier other state held locks looks
          rw [looks.readAt_eq path] at rest
          have reaction : Device.responder MemoryStore.service notifier (.read path) ⟨other, state⟩
              = ⟨some (other.readAt path), [], ⟨other, state⟩⟩ := rfl
          simp only [runHolding, reaction, rest, List.nil_append]
      | write path line => exact h.1.elim
      | withdraw id => exact h.1.elim
      | post notification => exact h.1.elim
  | note event next ih =>
      obtain ⟨value, requests, events, found⟩ := ih h
      refine ⟨value, requests, event :: events, ?_⟩
      intro ν notifier other state held locks looks
      simp only [runHolding, found notifier other state held locks looks]
  | acquire lock next ih => exact h.elim
  | release lock next ih => exact h.elim

end Procedure

end ModeSwitch
