import Mathlib.Data.List.Dedup
import ModeSwitch.Proofs.Snapshot.Difference

/-! Merging differences.

Of each key, differences that follow one another tell what it held at first and what it holds at last.
Merged key by key they make up the difference between both ends, for a key whose changes undo each
other drops out.
-/

namespace ModeSwitch

namespace Change

def reverse (change : Change) : Change :=
  ⟨change.key, change.after, change.before⟩

/-- The change of a key in the first of some lists that has one. -/
def first? (lists : List (List Change)) (key : String) : Option Change :=
  lists.findSome? (·.find? (·.key = key))

/-- The change of a key in the last of some lists that has one. -/
def last? (lists : List (List Change)) (key : String) : Option Change :=
  lists.reverse.findSome? (·.find? (·.key = key))

/-- What some lists of changes come to at a key: it had the state before the first change of it, and
has the state after the last one.  If these are the same, nothing has changed. -/
def mergedAt? (lists : List (List Change)) (key : String) : Option Change :=
  match first? lists key, last? lists key with
  | some first, some last =>
      if first.before = last.after then none else some ⟨key, first.before, last.after⟩
  | _, _ => none

/-- Lists of changes merged key by key, in ascending order of keys. -/
def merge (lists : List (List Change)) : List Change :=
  let keys := (lists.flatten.map (·.key)).dedup.mergeSort fun a b => a ≤ b
  keys.filterMap (mergedAt? lists)

variable {lists : List (List Change)} {key : String}

theorem first?_append_singleton (lists : List (List Change)) (changes : List Change) (key : String)
    : first? (lists ++ [changes]) key = (first? lists key).or (changes.find? (·.key = key)) := by
  cases found : changes.find? (·.key = key) <;> simp [first?, List.findSome?_append, found]

theorem last?_append_singleton (lists : List (List Change)) (changes : List Change) (key : String)
    : last? (lists ++ [changes]) key = (changes.find? (·.key = key)).or (last? lists key) := by
  cases found : changes.find? (·.key = key) <;> simp [last?, found]

/-- Lists of changes come to a change of a key if the first state and the last one differ. -/
theorem mergedAt?_eq_some_iff {change : Change}
    : mergedAt? lists key = some change
      ↔ ∃ first last,
          first? lists key = some first
          ∧ last? lists key = some last
          ∧ first.before ≠ last.after
          ∧ change = ⟨key, first.before, last.after⟩ := by
  unfold mergedAt?
  cases first? lists key <;> cases last? lists key <;> simp [eq_comm]

theorem mem_keys_of_first? {change : Change} (found : first? lists key = some change)
    : key ∈ lists.flatten.map (·.key) := by
  obtain ⟨list, member, held⟩ := List.exists_of_findSome?_eq_some found
  have same : change.key = key := by simpa using List.find?_some held
  exact List.mem_map.mpr
    ⟨change, List.mem_flatten.mpr ⟨list, member, List.mem_of_find?_eq_some held⟩, same⟩

/-- What is merged at a key is a change of that key. -/
theorem key_of_mergedAt? {change : Change} (merged : mergedAt? lists key = some change)
    : change.key = key := by
  obtain ⟨first, last, -, -, -, rfl⟩ := mergedAt?_eq_some_iff.mp merged
  rfl

/-- Merging keeps, for every key, what the lists come to. -/
theorem mem_merge_iff {change : Change}
    : change ∈ merge lists ↔ mergedAt? lists change.key = some change := by
  simp only [merge, List.mem_filterMap, List.mem_mergeSort, List.mem_dedup]
  constructor
  · rintro ⟨key, -, merged⟩
    rwa [key_of_mergedAt? merged]
  · intro merged
    obtain ⟨first, -, found, -⟩ := mergedAt?_eq_some_iff.mp merged
    exact ⟨change.key, mem_keys_of_first? found, merged⟩

theorem merge_ascending (lists : List (List Change))
    : (merge lists).Pairwise (·.key < ·.key) := by
  have keys := ascending_mergeSort id (List.nodup_dedup (lists.flatten.map (·.key)))
  exact ascending_filterMap (fun _ _ => key_of_mergedAt?) keys

end Change

namespace Snapshot

variable {earlier later : Snapshot} {key : String}

/-- The change at one key, if there is one. -/
def changeAt? (earlier later : Snapshot) (key : String) : Option Change :=
  if earlier.get? key = later.get? key then none
  else some ⟨key, earlier.get? key, later.get? key⟩

/-- The difference of two snapshots has, for every key, the change between its two states. -/
theorem find?_diff (earlier later : Snapshot) (key : String)
    : (earlier.diff later).find? (·.key = key) = earlier.changeAt? later key := by
  unfold changeAt?
  split
  · rename_i same
    refine List.find?_eq_none.mpr fun change member here => ?_
    obtain ⟨before, after, differ⟩ := mem_diff_iff.mp member
    rw [of_decide_eq_true here] at before after
    exact differ (before.trans (same.trans after.symm))
  · rename_i differ
    have member : (⟨key, earlier.get? key, later.get? key⟩ : Change) ∈ earlier.diff later :=
      mem_diff_iff.mpr ⟨rfl, rfl, differ⟩
    cases found : (earlier.diff later).find? (·.key = key) with
    | none => simpa using List.find?_eq_none.mp found _ member
    | some change =>
        -- Whatever is found at the key tells the same.
        obtain ⟨before, after, -⟩ := mem_diff_iff.mp (List.mem_of_find?_eq_some found)
        have here : change.key = key := by simpa using List.find?_some found
        rw [here] at before after
        rw [← before, ← after, ← here]

theorem mem_diff_iff_changeAt? {change : Change}
    : change ∈ earlier.diff later ↔ earlier.changeAt? later change.key = some change := by
  rw [mem_diff_iff, changeAt?, Option.ite_none_left_eq_some, Option.some.injEq]
  constructor
  · rintro ⟨before, after, differ⟩
    rw [← before, ← after]
    exact ⟨differ, rfl⟩
  · rintro ⟨differ, same⟩
    rw [← same]
    exact ⟨rfl, rfl, differ⟩

/-- The first and the last change of a key lead from one state to another; where nothing has changed,
the states are the same. -/
inductive Leads : Option Change → Option Change → Option State → Option State → Prop where
  | stay (state : Option State) : Leads none none state state
  | move (first last : Change) : Leads (some first) (some last) first.before last.after

/-- One more difference leads on from the state of the key in its earlier snapshot. -/
theorem Leads.further {first last : Option Change} {state : Option State}
    (leads : Leads first last state (earlier.get? key))
    : Leads (first.or (earlier.changeAt? later key)) ((earlier.changeAt? later key).or last) state
        (later.get? key) := by
  unfold changeAt?
  split
  · rename_i same
    rwa [Option.or_none, Option.none_or, ← same]
  · generalize earlier.get? key = middle at leads ⊢
    let step : Change := ⟨key, middle, later.get? key⟩
    cases leads with
    | stay => exact .move step step
    | move first last => exact .move first step

/-- If the changes of a key lead from one state to another, they come to the change between both. -/
theorem Leads.mergedAt?_eq {lists : List (List Change)}
    (leads
      : Leads (Change.first? lists key) (Change.last? lists key) (earlier.get? key)
          (later.get? key))
    : Change.mergedAt? lists key = earlier.changeAt? later key := by
  unfold Change.mergedAt? changeAt?
  generalize Change.first? lists key = first at leads
  generalize Change.last? lists key = last at leads
  generalize earlier.get? key = before at leads
  generalize later.get? key = after at leads
  cases leads with
  | stay => simp
  | move first last => rfl

def diffs (taken : Nat → Snapshot) (count : Nat) : List (List Change) :=
  (List.range count).map fun i => (taken i).diff (taken (i + 1))

theorem diffs_succ (taken : Nat → Snapshot) (count : Nat)
    : diffs taken (count + 1)
      = diffs taken count ++ [(taken count).diff (taken (count + 1))] := by
  simp [diffs, List.range_succ]

/-- Along a chain of snapshots the changes of a key lead from the first to the last, by induction on
the chain. -/
theorem leads_diffs (taken : Nat → Snapshot) (count : Nat) (key : String)
    : Leads (Change.first? (diffs taken count) key) (Change.last? (diffs taken count) key)
        ((taken 0).get? key) ((taken count).get? key) := by
  induction count with
  | zero => exact .stay _
  | succ count ih =>
      rw [diffs_succ, Change.first?_append_singleton, Change.last?_append_singleton, find?_diff]
      exact ih.further

/-- The differences along a chain of snapshots come to the difference of its ends. -/
theorem merge_diffs (taken : Nat → Snapshot) (count : Nat)
    : Change.merge (diffs taken count) = (taken 0).diff (taken count) := by
  refine eq_of_ascending (Change.merge_ascending _) (diff_ascending ..) fun change => ?_
  rw [Change.mem_merge_iff, mem_diff_iff_changeAt?, (leads_diffs taken count change.key).mergedAt?_eq]

theorem merge_diff_diff (first second third : Snapshot)
    : Change.merge [first.diff second, second.diff third] = first.diff third :=
  merge_diffs (fun | 0 => first | 1 => second | _ => third) 2

/-- Merging each difference of a chain into what was merged before comes to the same. -/
theorem foldl_merge_diffs (taken : Nat → Snapshot) (count : Nat)
    : (diffs taken count).foldl (fun merged part => Change.merge [merged, part]) []
      = (taken 0).diff (taken count) := by
  induction count with
  | zero => exact (diff_eq_nil_iff.mpr rfl).symm
  | succ count ih =>
      rw [diffs_succ, List.foldl_append, ih]
      exact merge_diff_diff ..

/-- Seen from the later snapshot everything has changed the other way round. -/
theorem diff_swap (earlier later : Snapshot)
    : later.diff earlier = (earlier.diff later).map Change.reverse := by
  refine eq_of_ascending (diff_ascending ..)
    (List.pairwise_map.mpr (diff_ascending earlier later)) fun change => ?_
  rw [List.mem_map]
  constructor
  · intro member
    obtain ⟨before, after, differ⟩ := mem_diff_iff.mp member
    exact ⟨change.reverse, mem_diff_iff.mpr ⟨after, before, differ.symm⟩, rfl⟩
  · rintro ⟨change, member, rfl⟩
    obtain ⟨before, after, differ⟩ := mem_diff_iff.mp member
    exact mem_diff_iff.mpr ⟨after, before, differ.symm⟩

/-- Differences that follow one another merge to the difference between both ends, two of them or any
chain, all at once or one after another; and a difference taken the other way round has the same
changes in the same order, each the other way round. -/
theorem diffs_compose_and_reverse
    : (∀ first second third : Snapshot,
        Change.merge [first.diff second, second.diff third] = first.diff third)
      ∧ (∀ earlier later : Snapshot,
          later.diff earlier = (earlier.diff later).map Change.reverse)
      ∧ ∀ (taken : Nat → Snapshot) (count : Nat),
          let parts := (List.range count).map fun i => (taken i).diff (taken (i + 1))
          Change.merge parts = (taken 0).diff (taken count)
          ∧ parts.foldl (fun merged part => Change.merge [merged, part]) []
            = (taken 0).diff (taken count) :=
  ⟨merge_diff_diff, diff_swap, fun taken count =>
    ⟨merge_diffs taken count, foldl_merge_diffs taken count⟩⟩

end Snapshot

end ModeSwitch
