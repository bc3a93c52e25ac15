import Mathlib.Data.List.Sort
import ModeSwitch.Proofs.Snapshot.Lookup
import ModeSwitch.Proofs.Text.ByteOrder

/-! Differences of snapshots.

A difference tells what becomes of each key whose state is not the same in both snapshots, and
nothing else.  So whoever has the earlier snapshot can work out the later one.
-/

namespace ModeSwitch

section Ascending

variable {α β : Type} {key : α → String}

/-- Things with different keys ascend once they are sorted. -/
theorem ascending_mergeSort (key : α → String) {things : List α}
    (distinct : things.Pairwise (key · ≠ key ·))
    : (things.mergeSort fun a b => key a ≤ key b).Pairwise (key · < key ·) := by
  have sorted : (things.mergeSort fun a b => key a ≤ key b).Pairwise fun a b =>
      decide (key a ≤ key b) = true := by
    refine List.pairwise_mergeSort (fun a b c first second => ?_) (fun a b => ?_) things
    · exact decide_eq_true (String.le_trans (of_decide_eq_true first) (of_decide_eq_true second))
    · simpa using String.le_total (key a) (key b)
  have apart : (things.mergeSort fun a b => key a ≤ key b).Pairwise (key · ≠ key ·) :=
    (List.mergeSort_perm things _).symm.pairwise distinct Ne.symm
  refine (sorted.and apart).imp fun {a b} ⟨le, ne⟩ => ?_
  exact String.not_le.mp fun ge => ne (String.le_antisymm (of_decide_eq_true le) ge)

/-- What is made of ascending things ascends if it has their keys. -/
theorem ascending_filterMap {key' : β → String} {f : α → Option β}
    (keeps : ∀ a b, f a = some b → key' b = key a) {things : List α}
    (ascending : things.Pairwise (key · < key ·))
    : (things.filterMap f).Pairwise (key' · < key' ·) := by
  refine ascending.filterMap _ fun a a' less b made b' made' => ?_
  rwa [keeps a b made, keeps a' b' made']

/-- Ascending things are determined by which they are. -/
theorem eq_of_ascending {things others : List α} (ascending : things.Pairwise (key · < key ·))
    (ascending' : others.Pairwise (key · < key ·)) (same : ∀ thing, thing ∈ things ↔ thing ∈ others)
    : things = others := by
  have nodup {list : List α} (ascends : list.Pairwise (key · < key ·)) : list.Nodup :=
    .of_map key (List.pairwise_map.mpr (ascends.imp String.ne_of_lt))
  have perm := (List.perm_ext_iff_of_nodup (nodup ascending) (nodup ascending')).mpr same
  refine perm.eq_of_pairwise ?_ ascending ascending'
  intro first second _ _ before after
  exact (String.lt_irrefl _ (String.lt_trans before after)).elim

end Ascending

namespace Snapshot

variable {snapshot other earlier later : Snapshot} {key : String} {state : State}

/-- A snapshot has every key once. -/
theorem nodup_keys (snapshot : Snapshot) : snapshot.keys.Nodup := by
  rw [keys, List.Nodup, List.pairwise_map]
  exact snapshot.ascending.imp String.ne_of_lt

theorem get?_eq_some_iff : snapshot.get? key = some state ↔ (key, state) ∈ snapshot.entries := by
  have held {state : State} (found : snapshot.get? key = some state)
      : (key, state) ∈ snapshot.entries := by
    obtain ⟨before, after, same, -⟩ := List.lookup_eq_some_iff.mp found
    simp [same]
  refine ⟨held, fun member => ?_⟩
  have known : key ∈ snapshot.keys := List.mem_map_of_mem (f := (·.1)) member
  obtain ⟨found, same⟩ := Option.isSome_iff_exists.mp (mem_keys_iff.mp known)
  obtain ⟨-, rfl⟩ := Prod.mk.inj
    (List.inj_on_of_nodup_map snapshot.nodup_keys (held same) member rfl)
  exact same

/-- Snapshots that hold the same are equal, since their entries are in order. -/
theorem ext_get? (same : ∀ key, snapshot.get? key = other.get? key) : snapshot = other := by
  have equal : snapshot.entries = other.entries :=
    eq_of_ascending snapshot.ascending other.ascending fun entry => by
      rw [← get?_eq_some_iff, ← get?_eq_some_iff, same]
  cases snapshot
  cases other
  cases equal
  rfl

def erase (snapshot : Snapshot) (key : String) : Snapshot :=
  ⟨snapshot.entries.filter (·.1 ≠ key), snapshot.ascending.filter _⟩

theorem get?_erase (snapshot : Snapshot) (key other : String)
    : (snapshot.erase key).get? other = if other = key then none else snapshot.get? other := by
  apply Option.ext
  intro state
  rw [get?_eq_some_iff]
  by_cases same : other = key <;> simp [erase, same, get?_eq_some_iff]

/-- The snapshot after a change: the key has the state that it changed to, or none. -/
def apply (snapshot : Snapshot) (change : Change) : Snapshot :=
  match change.after with
  | some state => snapshot.insert change.key state
  | none => snapshot.erase change.key

/-- A change decides the state of its key and of no other. -/
theorem get?_apply (snapshot : Snapshot) (change : Change) (key : String)
    : (snapshot.apply change).get? key
      = if key = change.key then change.after else snapshot.get? key := by
  unfold apply
  cases change.after with
  | some state => exact get?_insert ..
  | none => exact get?_erase ..

def applyAll (snapshot : Snapshot) (changes : List Change) : Snapshot :=
  changes.foldl apply snapshot

theorem applyAll_append (snapshot : Snapshot) (changes more : List Change)
    : snapshot.applyAll (changes ++ more) = (snapshot.applyAll changes).applyAll more :=
  List.foldl_append

/-- Changes of other keys leave the state of a key as it is. -/
theorem get?_applyAll_of_notMem {changes : List Change}
    (absent : ∀ change ∈ changes, change.key ≠ key) (snapshot : Snapshot)
    : (snapshot.applyAll changes).get? key = snapshot.get? key := by
  induction changes generalizing snapshot with
  | nil => rfl
  | cons change rest ih =>
      have apart : key ≠ change.key := (absent change List.mem_cons_self).symm
      have kept := ih (fun other member => absent other (List.mem_cons_of_mem _ member))
        (snapshot.apply change)
      rwa [get?_apply, if_neg apart] at kept

/-- Of changes at different keys each settles its own key. -/
theorem get?_applyAll_of_mem {changes : List Change} (once : changes.Pairwise (·.key ≠ ·.key))
    {change : Change} (member : change ∈ changes) (snapshot : Snapshot)
    : (snapshot.applyAll changes).get? change.key = change.after := by
  induction changes generalizing snapshot with
  | nil => cases member
  | cons first rest ih =>
      obtain ⟨apart, once⟩ := List.pairwise_cons.mp once
      rcases List.mem_cons.mp member with rfl | member
      · have settled := get?_applyAll_of_notMem (fun other member => (apart other member).symm)
          (snapshot.apply change)
        rwa [get?_apply, if_pos rfl] at settled
      · exact ih once member _

/-- An arrival is at a key of the later snapshot, where the earlier one holds something else. -/
theorem mem_arrivals_iff {change : Change}
    : change ∈ earlier.arrivals later
      ↔ ∃ state,
          later.get? change.key = some state
          ∧ change.before = earlier.get? change.key
          ∧ change.after = some state
          ∧ change.before ≠ some state := by
  simp only [arrivals, List.mem_filterMap, Option.ite_none_left_eq_some, Option.some.injEq]
  constructor
  · rintro ⟨⟨key, state⟩, member, differ, rfl⟩
    exact ⟨state, get?_eq_some_iff.mpr member, rfl, rfl, differ⟩
  · rintro ⟨state, held, before, after, differ⟩
    refine ⟨(change.key, state), get?_eq_some_iff.mp held, before ▸ differ, ?_⟩
    dsimp only
    rw [← before, ← after]

/-- A departure is at a key of the earlier snapshot that the later one does not hold. -/
theorem mem_departures_iff {change : Change}
    : change ∈ earlier.departures later
      ↔ ∃ state,
          earlier.get? change.key = some state
          ∧ later.get? change.key = none
          ∧ change.before = some state
          ∧ change.after = none := by
  simp only [departures, List.mem_filterMap, Option.ite_none_left_eq_some, Option.some.injEq,
    Bool.not_eq_true, Option.isSome_eq_false_iff, Option.isNone_iff_eq_none]
  constructor
  · rintro ⟨⟨key, state⟩, member, gone, rfl⟩
    exact ⟨state, get?_eq_some_iff.mpr member, gone, rfl, rfl⟩
  · rintro ⟨state, held, gone, before, after⟩
    refine ⟨(change.key, state), get?_eq_some_iff.mp held, gone, ?_⟩
    dsimp only
    rw [← before, ← after]

/-- A difference holds just the keys that differ, each with its states before and after. -/
theorem mem_diff_iff {change : Change}
    : change ∈ earlier.diff later
      ↔ change.before = earlier.get? change.key
        ∧ change.after = later.get? change.key
        ∧ change.before ≠ change.after := by
  rw [diff, List.mem_mergeSort, List.mem_append, mem_arrivals_iff, mem_departures_iff]
  constructor
  · rintro (⟨state, held, before, after, differ⟩ | ⟨state, held, gone, before, after⟩)
    · exact ⟨before, after.trans held.symm, after ▸ differ⟩
    · exact ⟨before.trans held.symm, after.trans gone.symm, by simp [before, after]⟩
  · rintro ⟨before, after, differ⟩
    cases present : later.get? change.key with
    | some state => exact .inl ⟨state, rfl, before, after.trans present, fun same =>
        differ (same.trans (after.trans present).symm)⟩
    | none =>
        -- What is absent later and differs was present before.
        rw [after.trans present] at differ
        obtain ⟨state, held⟩ := Option.ne_none_iff_exists'.mp differ
        exact .inr ⟨state, before.symm.trans held, rfl, held, after.trans present⟩

theorem arrivals_ascending (earlier later : Snapshot)
    : (earlier.arrivals later).Pairwise (·.key < ·.key) := by
  refine ascending_filterMap (fun entry change made => ?_) later.ascending
  obtain ⟨-, same⟩ := Option.ite_none_left_eq_some.mp made
  cases same
  rfl

theorem departures_ascending (earlier later : Snapshot)
    : (earlier.departures later).Pairwise (·.key < ·.key) := by
  refine ascending_filterMap (fun entry change made => ?_) earlier.ascending
  obtain ⟨-, same⟩ := Option.ite_none_left_eq_some.mp made
  cases same
  rfl

/-- An arrival is held later and a departure is not, so no key is in both. -/
theorem diff_ascending (earlier later : Snapshot)
    : (earlier.diff later).Pairwise (·.key < ·.key) := by
  refine ascending_mergeSort Change.key (List.pairwise_append.mpr
    ⟨(arrivals_ascending earlier later).imp String.ne_of_lt,
      (departures_ascending earlier later).imp String.ne_of_lt, ?_⟩)
  intro arrival arrived departure departed same
  obtain ⟨state, held, -⟩ := mem_arrivals_iff.mp arrived
  obtain ⟨-, -, gone, -⟩ := mem_departures_iff.mp departed
  cases (same ▸ held).symm.trans gone

/-- A difference is in the order of the bytes of keys, and has every key once.  It has a key exactly
if the two snapshots hold different things there, and tells what either of them holds. -/
theorem diff_tells_what_differs (earlier later : Snapshot)
    : (earlier.diff later).Pairwise (fun first second =>
        Text.Utf8.encode first.key < Text.Utf8.encode second.key)
      ∧ ((earlier.diff later).map (·.key)).Nodup
      ∧ (∀ key,
          (∃ change ∈ earlier.diff later, change.key = key)
          ↔ earlier.get? key ≠ later.get? key)
      ∧ ∀ change ∈ earlier.diff later,
          change.before = earlier.get? change.key
          ∧ change.after = later.get? change.key
          ∧ change.before ≠ change.after
          ∧ ¬ (change.before = none ∧ change.after = none) := by
  have ascending := diff_ascending earlier later
  refine ⟨ascending.imp Text.Utf8.encode_lt_encode,
    List.pairwise_map.mpr (ascending.imp String.ne_of_lt), fun key => ⟨?_, fun differ => ?_⟩,
    fun change member => ?_⟩
  · rintro ⟨change, member, rfl⟩
    obtain ⟨before, after, differ⟩ := mem_diff_iff.mp member
    rwa [← before, ← after]
  · exact ⟨⟨key, earlier.get? key, later.get? key⟩, mem_diff_iff.mpr ⟨rfl, rfl, differ⟩, rfl⟩
  · obtain ⟨before, after, differ⟩ := mem_diff_iff.mp member
    exact ⟨before, after, differ, fun absent => differ (absent.1.trans absent.2.symm)⟩

/-- Between two looks a switch is turned off, a lamp is taken away and another one appears, whose
name comes last by its bytes; a third switch stays as it is. -/
theorem lamps_tell_what_differs
    : let earlier := ofList [("lamp", .enabled), ("fast", .enabled), ("turbo", .disabled)]
      let later := ofList [("écran", .disabled), ("turbo", .disabled), ("fast", .disabled)]
      let gone : Change := ⟨"lamp", some .enabled, none⟩
      gone ∈ earlier.diff later
      ∧ gone.before = earlier.get? "lamp"
      ∧ gone.after = later.get? "lamp"
      ∧ gone.before ≠ gone.after
      ∧ earlier.diff later
        = [⟨"fast", some .enabled, some .disabled⟩, gone, ⟨"écran", none, some .disabled⟩] := by
  intro earlier later gone
  have changes
      : earlier.diff later
        = [⟨"fast", some .enabled, some .disabled⟩, gone, ⟨"écran", none, some .disabled⟩] := by
    -- Sorting is not to be evaluated, but both sides ascend and have the same members.
    have arrived
        : earlier.arrivals later
          = [⟨"fast", some .enabled, some .disabled⟩, ⟨"écran", none, some .disabled⟩] := by
      decide
    have departed : earlier.departures later = [gone] := by decide
    refine eq_of_ascending (diff_ascending earlier later) (by decide) fun change => ?_
    rw [diff, List.mem_mergeSort, arrived, departed]
    simp [or_comm]
  have member : gone ∈ earlier.diff later := by simp [changes]
  obtain ⟨before, after, differ, -⟩ := (diff_tells_what_differs earlier later).2.2.2 gone member
  exact ⟨member, before, after, differ, changes⟩

/-- Only equal snapshots have no difference. -/
theorem diff_eq_nil_iff : earlier.diff later = [] ↔ earlier = later := by
  constructor
  · intro none
    refine ext_get? fun key => Decidable.byContradiction fun differ => ?_
    have member : (⟨key, earlier.get? key, later.get? key⟩ : Change) ∈ earlier.diff later :=
      mem_diff_iff.mpr ⟨rfl, rfl, differ⟩
    rw [none] at member
    cases member
  · rintro rfl
    refine List.eq_nil_iff_forall_not_mem.mpr fun change member => ?_
    obtain ⟨before, after, differ⟩ := mem_diff_iff.mp member
    exact differ (before.trans after.symm)

/-- The changes of a difference lead from the earlier snapshot to the later one. -/
theorem applyAll_diff (earlier later : Snapshot)
    : earlier.applyAll (earlier.diff later) = later := by
  refine ext_get? fun key => ?_
  by_cases same : earlier.get? key = later.get? key
  · refine (get?_applyAll_of_notMem ?_ earlier).trans same
    rintro change member rfl
    obtain ⟨before, after, differ⟩ := mem_diff_iff.mp member
    exact differ (before.trans (same.trans after.symm))
  · have member : (⟨key, earlier.get? key, later.get? key⟩ : Change) ∈ earlier.diff later :=
      mem_diff_iff.mpr ⟨rfl, rfl, same⟩
    have once := (diff_ascending earlier later).imp String.ne_of_lt
    exact get?_applyAll_of_mem once member earlier

/-- The changes from each snapshot to the next lead from the first to every one of them. -/
theorem applyAll_diffs (taken : Nat → Snapshot) (i : Nat)
    : (taken 0).applyAll ((List.range i).flatMap fun i => (taken i).diff (taken (i + 1)))
      = taken i := by
  induction i with
  | zero => rfl
  | succ i ih =>
      rw [List.range_succ, List.flatMap_append, applyAll_append, ih]
      simpa using applyAll_diff (taken i) (taken (i + 1))

end Snapshot

end ModeSwitch
