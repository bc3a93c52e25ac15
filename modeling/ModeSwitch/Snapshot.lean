import ModeSwitch.Mode

/-! Snapshots.

A snapshot maps the keys of the toggles that are present to their states, in ascending order of
keys.  The difference of two snapshots lists the keys at which they differ, in the same order.
-/

namespace ModeSwitch

/-- The states of the toggles that are present, in ascending order of keys. -/
structure Snapshot where
  entries : List (String × State)
  ascending : entries.Pairwise (·.1 < ·.1)

namespace Snapshot

def empty : Snapshot := ⟨[], .nil⟩

instance : Inhabited Snapshot := ⟨empty⟩

def keys (snapshot : Snapshot) : List String :=
  snapshot.entries.map (·.1)

/-- The state of a key, if the snapshot holds it. -/
def get? (snapshot : Snapshot) (key : String) : Option State :=
  snapshot.entries.lookup key

/-- Puts an entry at its place among ascending entries, over an entry with the same key. -/
def insertEntry (key : String) (state : State) : List (String × State) → List (String × State)
  | [] => [(key, state)]
  | (k, s) :: rest =>
      if key < k then (key, state) :: (k, s) :: rest
      else if key = k then (key, state) :: rest
      else (k, s) :: insertEntry key state rest

theorem mem_insertEntry {key : String} {state : State} {entries : List (String × State)}
    {entry : String × State} (h : entry ∈ insertEntry key state entries)
    : entry = (key, state) ∨ entry ∈ entries := by
  induction entries with
  | nil => simpa [insertEntry] using h
  | cons head rest ih =>
      obtain ⟨k, s⟩ := head
      unfold insertEntry at h
      split at h
      · simpa using h
      · split at h
        · rcases List.mem_cons.mp h with h | h
          · exact .inl h
          · exact .inr (List.mem_cons_of_mem _ h)
        · rcases List.mem_cons.mp h with h | h
          · exact .inr (h ▸ List.mem_cons_self)
          · exact (ih h).imp_right (List.mem_cons_of_mem _)

/-- Inserting keeps the order: the new entry goes before the first greater key, and in place of an
equal one. -/
theorem ascending_insertEntry {key : String} {state : State} {entries : List (String × State)}
    (h : entries.Pairwise (·.1 < ·.1))
    : (insertEntry key state entries).Pairwise (·.1 < ·.1) := by
  induction entries with
  | nil => exact List.pairwise_singleton _ _
  | cons head rest ih =>
      obtain ⟨k, s⟩ := head
      obtain ⟨hhead, hrest⟩ := List.pairwise_cons.mp h
      unfold insertEntry
      split
      · rename_i hlt
        refine List.pairwise_cons.mpr ⟨fun entry he => ?_, h⟩
        rcases List.mem_cons.mp he with rfl | he
        · exact hlt
        · exact String.lt_trans hlt (hhead entry he)
      · rename_i hnlt
        split
        · rename_i heq
          subst heq
          exact List.pairwise_cons.mpr ⟨hhead, hrest⟩
        · rename_i hne
          refine List.pairwise_cons.mpr ⟨fun entry he => ?_, ih hrest⟩
          rcases mem_insertEntry he with rfl | he
          · exact Decidable.byContradiction fun hnot =>
              hne (String.le_antisymm (String.not_lt.mp hnot) (String.not_lt.mp hnlt))
          · exact hhead entry he

/-- The snapshot with the state of one key set. -/
def insert (snapshot : Snapshot) (key : String) (state : State) : Snapshot :=
  ⟨insertEntry key state snapshot.entries, ascending_insertEntry snapshot.ascending⟩

/-- The snapshot with all the entries set, one after another; of entries with one key the last one
stays. -/
def insertAll (snapshot : Snapshot) (entries : List (String × State)) : Snapshot :=
  entries.foldl (fun s entry => s.insert entry.1 entry.2) snapshot

/-- The snapshot of a list of entries; of entries with one key the last one stays. -/
def ofList (entries : List (String × State)) : Snapshot :=
  empty.insertAll entries

end Snapshot

/-- A key whose state differs between two snapshots; no state means that the key was absent. -/
structure Change where
  key : String
  before : Option State
  after : Option State
  deriving DecidableEq, Repr

namespace Snapshot

/-- The changes that show in the later snapshot: its keys that are new, or have another state. -/
def arrivals (earlier later : Snapshot) : List Change :=
  later.entries.filterMap fun (key, after) =>
    let before := earlier.get? key
    if before = some after then none else some ⟨key, before, some after⟩

/-- The changes that show in the earlier snapshot only: its keys that are gone. -/
def departures (earlier later : Snapshot) : List Change :=
  earlier.entries.filterMap fun (key, before) =>
    if (later.get? key).isSome then none else some ⟨key, some before, none⟩

/-- The changes from one snapshot to another, in ascending order of keys. -/
def diff (earlier later : Snapshot) : List Change :=
  (earlier.arrivals later ++ earlier.departures later).mergeSort fun a b => a.key ≤ b.key

end Snapshot

end ModeSwitch
