import ModeSwitch.Proofs.Device.Recording

/-! What a store in memory takes for one attribute.

The store makes no difference between two paths, whatever its state, exactly when they name the same
place.  Where they do not, a state with an attribute at one of them tells them apart: by a probe as
well as by a read or a write.
-/

namespace ModeSwitch.MemoryStore

/-- Two stores differ at most in how the paths of their recorded writes are spelled. -/
structure Matches (store other : MemoryStore) : Prop where
  unrecorded : store.unrecorded = other.unrecorded
  recorded
    : store.writes.map (fun write => (write.1.place, write.2))
      = other.writes.map fun write => (write.1.place, write.2)

/-- Whether an attribute is present does not depend on which of the paths is asked for. -/
def ProbedAlike (path other : AttrPath) : Prop :=
  ∀ store : MemoryStore, service.probe path store = service.probe other store

def ReadAlike (path other : AttrPath) : Prop :=
  ∀ store : MemoryStore, service.read path store = service.read other store

/-- A write by either path is answered alike and leaves the same behind, except that the record has
the path as it was spelled. -/
def WrittenAlike (path other : AttrPath) : Prop :=
  ∀ (store : MemoryStore) (line : String),
    (service.write path line store).reply = (service.write other line store).reply
    ∧ (service.write path line store).events = (service.write other line store).events
    ∧ (service.write path line store).state.Matches (service.write other line store).state

variable {path other : AttrPath}

theorem Matches.refl (store : MemoryStore) : store.Matches store :=
  ⟨rfl, rfl⟩

/-- A write that goes through leaves the same behind under all spellings of its path. -/
theorem matches_accepting (same : path.SamePlace other) (store : MemoryStore) (line : String)
    : (store.accepting path line).Matches (store.accepting other line) := by
  have place_eq : path.place = other.place := same
  constructor <;> simp [accepting, unrecorded, place_eq]

/-- Where an attribute was put into an empty store, no other place has one. -/
theorem holds_put_empty_iff (path other : AttrPath) (contents : String)
    : (empty.intervene (.put path contents)).holds other = true ↔ path.SamePlace other := by
  simp [holds, contents?, intervene, empty, putAt, valueAt_cons, AttrPath.SamePlace]

/-- Only an attribute that is present can be read. -/
theorem holds_of_readAt_eq_ok {store : MemoryStore} {contents : String}
    (h : store.readAt path = .ok contents)
    : store.holds path = true := by
  unfold readAt at h
  split at h
  · cases h
  · cases found : store.contents? path with
    | none => simp [found] at h
    | some _ => simp [holds, found]

/-- A write goes through where an attribute is present and the driver neither panics nor refuses. -/
theorem write_reply_eq_ok_iff {store : MemoryStore} {line : String}
    : (service.write path line store).reply = some (.ok ())
      ↔ store.panicking = false ∧ store.behaviour ≠ .fail ∧ store.holds path = true := by
  cases store.takes path with
  | panics on => simp [service, on]
  | refuses calm refused =>
      rcases refused with refused | absent
      · simp [service, calm, refused]
      · simp [service, calm, absent]
  | accepts calm willing present => simp [service, calm, willing, present]

/-- Two paths name one place exactly if every store answers alike whether they are present. -/
theorem samePlace_iff_probedAlike : path.SamePlace other ↔ ProbedAlike path other := by
  constructor
  · intro same store
    simp only [service, holds_congr same]
  · intro alike
    have probes := congrArg Reaction.reply (alike (empty.intervene (.put path "")))
    simp only [service, Option.some.injEq] at probes
    rw [← holds_put_empty_iff path other "", ← probes, holds_put_empty_iff]
    rfl

/-- Two paths name one place exactly if every store reads alike by either of them. -/
theorem samePlace_iff_readAlike : path.SamePlace other ↔ ReadAlike path other := by
  constructor
  · intro same store
    simp only [service, readAt_congr same]
  · intro alike
    have reads := congrArg Reaction.reply (alike (empty.intervene (.put path "")))
    simp only [service, Option.some.injEq] at reads
    rw [readAt_intervene_put rfl] at reads
    exact (holds_put_empty_iff path other "").mp (holds_of_readAt_eq_ok reads.symm)

/-- Two paths name one place exactly if every store takes a line alike by either of them. -/
theorem samePlace_iff_writtenAlike : path.SamePlace other ↔ WrittenAlike path other := by
  constructor
  · intro same store line
    simp only [service, holds_congr same]
    split
    · exact ⟨rfl, rfl, .refl store⟩
    · split
      · exact ⟨rfl, rfl, .refl store⟩
      · exact ⟨rfl, rfl, matches_accepting same store line⟩
  · intro alike
    -- The write goes through by one path only, unless the other leads to the same attribute.
    let store := empty.intervene (.put path "")
    have willing : store.behaviour ≠ .fail := by simp [store, intervene, empty]
    have accepted : (service.write path "" store).reply = some (.ok ()) :=
      write_reply_eq_ok_iff.mpr ⟨rfl, willing, (holds_put_empty_iff path path "").mpr rfl⟩
    rw [(alike store "").1] at accepted
    exact (holds_put_empty_iff path other "").mp (write_reply_eq_ok_iff.mp accepted).2.2

end ModeSwitch.MemoryStore
