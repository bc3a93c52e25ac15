import ModeSwitch.Snapshot

/-! What a snapshot holds.

Setting a key is seen under that key only.  So a snapshot of entries with different keys holds just
these entries.
-/

namespace ModeSwitch.Snapshot

variable {key other : String} {state : State}

theorem lookup_cons (k : String) (s : State) (rest : List (String × State)) (key : String)
    : ((k, s) :: rest).lookup key = if key = k then some s else rest.lookup key := by
  by_cases same : key = k
  · simp [same]
  · simp [List.lookup_cons, beq_eq_false_iff_ne.mpr same, same]

/-- An inserted entry is found under its key, and hides nothing else. -/
theorem lookup_insertEntry (entries : List (String × State))
    : (insertEntry key state entries).lookup other
      = if other = key then some state else entries.lookup other := by
  induction entries with
  | nil => exact lookup_cons key state [] other
  | cons head rest ih =>
      obtain ⟨k, s⟩ := head
      unfold insertEntry
      split
      · exact lookup_cons key state ((k, s) :: rest) other
      · split
        · rename_i replaced
          subst replaced
          by_cases same : other = key <;> simp [lookup_cons, same]
        · -- The entry goes further back, so the first one is found as before.
          rename_i apart
          have first : k ≠ key := fun h => apart h.symm
          rw [lookup_cons, ih, lookup_cons]
          by_cases same : other = k <;> simp [same, first]

@[simp]
theorem get?_empty (key : String) : empty.get? key = none :=
  rfl

/-- Setting the state of a key leaves the others as they are. -/
@[simp]
theorem get?_insert (snapshot : Snapshot) (key : String) (state : State) (other : String)
    : (snapshot.insert key state).get? other
      = if other = key then some state else snapshot.get? other :=
  lookup_insertEntry snapshot.entries

theorem mem_keys_iff {snapshot : Snapshot}
    : key ∈ snapshot.keys ↔ (snapshot.get? key).isSome = true := by
  simp [keys, get?, List.lookup_isSome_iff]

/-- Setting other keys is not seen. -/
theorem get?_insertAll_of_notMem {entries : List (String × State)}
    (absent : key ∉ entries.map (·.1)) (snapshot : Snapshot)
    : (snapshot.insertAll entries).get? key = snapshot.get? key := by
  induction entries generalizing snapshot with
  | nil => rfl
  | cons head rest ih =>
      simp only [List.map_cons, List.mem_cons, not_or] at absent
      have later := ih absent.2 (snapshot.insert head.1 head.2)
      simpa [insertAll, absent.1] using later

/-- A key that is set once holds the state that it was set to. -/
theorem get?_insertAll_of_mem {entries : List (String × State)}
    (once : (entries.map (·.1)).Nodup) (member : (key, state) ∈ entries) (snapshot : Snapshot)
    : (snapshot.insertAll entries).get? key = some state := by
  induction entries generalizing snapshot with
  | nil => cases member
  | cons head rest ih =>
      obtain ⟨new, once⟩ := List.nodup_cons.mp once
      rcases List.mem_cons.mp member with rfl | later
      · have kept := get?_insertAll_of_notMem new (snapshot.insert key state)
        simpa [insertAll] using kept
      · exact ih once later _

/-- Entries with different keys are just what their snapshot holds. -/
theorem get?_ofList_eq_some_iff {entries : List (String × State)}
    (once : (entries.map (·.1)).Nodup)
    : (ofList entries).get? key = some state ↔ (key, state) ∈ entries := by
  constructor
  · intro found
    by_cases member : key ∈ entries.map (·.1)
    · obtain ⟨⟨_, held⟩, inside, rfl⟩ := List.mem_map.mp member
      have holds := get?_insertAll_of_mem once inside empty
      obtain rfl : held = state := Option.some.inj (holds.symm.trans found)
      exact inside
    · have absent := get?_insertAll_of_notMem member empty
      cases absent.symm.trans found
  · exact fun member => get?_insertAll_of_mem once member empty

end ModeSwitch.Snapshot
