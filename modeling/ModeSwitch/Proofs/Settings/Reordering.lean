import Mathlib.Data.List.Forall2
import Mathlib.Data.List.Nodup
import ModeSwitch.Proofs.Settings.Commutation

/-! Changes in another order.

Changes at different places may be exchanged.  So changes may be put in any order that keeps the order
of those at each place: such an order is reached by exchanging neighbours.
-/

namespace ModeSwitch

/-! ## Orders reached by exchanging neighbours -/

/-- One list becomes another by exchanging neighbours that are apart. -/
inductive Reorders {α : Type} (apart : α → α → Prop) : List α → List α → Prop where
  | nil : Reorders apart [] []
  | cons (a : α) {first second : List α} (rest : Reorders apart first second)
    : Reorders apart (a :: first) (a :: second)
  | swap {a b : α} (h : apart a b) (rest : List α)
    : Reorders apart (a :: b :: rest) (b :: a :: rest)
  | trans {first second third : List α} (earlier : Reorders apart first second)
    (later : Reorders apart second third)
    : Reorders apart first third

namespace Reorders

variable {α : Type} {apart : α → α → Prop}

theorem refl (list : List α) : Reorders apart list list := by
  induction list with
  | nil => exact .nil
  | cons a rest ih => exact .cons a ih

/-- An element moves to the front past others that are apart from it. -/
theorem toFront {a : α} {before : List α} (passes : ∀ b ∈ before, apart b a) (after : List α)
    : Reorders apart (before ++ a :: after) (a :: (before ++ after)) := by
  induction before with
  | nil => exact refl _
  | cons b before ih =>
      have moved := ih fun c member => passes c (List.mem_cons_of_mem b member)
      exact (moved.cons b).trans (.swap (passes b List.mem_cons_self) _)

/-- A list without repetition becomes every permutation that keeps the order of those that are not
apart, by induction on the permutation: its first element can be moved to the front. -/
theorem of_perm {first second : List α} (nodup : first.Nodup) (perm : second.Perm first)
    (kept : ∀ a b, [a, b].Sublist first → ¬ apart a b → [a, b].Sublist second)
    : Reorders apart first second := by
  induction second generalizing first with
  | nil => rw [List.nil_perm.mp perm]; exact .nil
  | cons a second ih =>
      obtain ⟨before, after, rfl⟩ := List.append_of_mem (perm.subset List.mem_cons_self)
      obtain ⟨fresh, -⟩ := List.nodup_cons.mp (perm.nodup_iff.mpr nodup)
      have rest := (perm.trans List.perm_middle).cons_inv
      have inside : (before ++ after).Sublist (before ++ a :: after) :=
        (List.sublist_cons_self a after).append_left before
      have passes : ∀ b ∈ before, apart b a := by
        intro b member
        by_contra touching
        have pair : [b, a].Sublist (before ++ a :: after) :=
          (List.singleton_sublist.mpr member).append
            (List.singleton_sublist.mpr List.mem_cons_self)
        cases kept b a pair touching with
        | cons _ later => exact fresh (later.subset (by simp))
        | cons_cons _ later => exact fresh (List.singleton_sublist.mp later)
      refine (toFront passes after).trans (.cons a (ih (nodup.sublist inside) rest ?_))
      intro b c pair touching
      cases kept b c (pair.trans inside) touching with
      | cons _ later => exact later
      | cons_cons _ later =>
          exact (fresh (rest.symm.subset (pair.subset List.mem_cons_self))).elim

end Reorders

/-! ## Effects in another order -/

/-- If every index stands beside the element with this index, then the elements are found at the
indices that they stand beside. -/
theorem map_getElem?_of_zip_perm {α : Type} {elements others : List α} {order : List Nat}
    (length_eq : order.length = others.length)
    (perm : ((List.range elements.length).zip elements).Perm (order.zip others))
    : order.map (elements[·]?) = others.map some := by
  have found : List.Forall₂ (fun i element => elements[i]? = some element) order others := by
    refine List.forall₂_iff_zip.mpr ⟨length_eq, fun {i element} member => ?_⟩
    obtain ⟨k, beside⟩ := List.mem_iff_getElem?.mp (perm.mem_iff.mpr member)
    obtain ⟨index, here⟩ := List.getElem?_zip_eq_some.mp beside
    obtain ⟨inside, same⟩ := List.getElem?_eq_some_iff.mp index
    rw [List.getElem_range] at same
    rwa [same] at here
  rw [← List.forall₂_eq_eq_eq, List.forall₂_map_left_iff, List.forall₂_map_right_iff]
  exact found

namespace Config

variable {config : Config}

/-- Changes from matching devices come to the same and leave matching devices, by induction on the
changes. -/
theorem effectsInTurn_congr (calls : List (String × State)) {device device' : RecordingDevice}
    (alike : device.Matches device')
    : config.effectsInTurn calls device = config.effectsInTurn calls device'
      ∧ (device.after (config.effectsInTurn calls device)).Matches
          (device'.after (config.effectsInTurn calls device')) := by
  induction calls generalizing device device' with
  | nil => exact ⟨rfl, alike⟩
  | cons call calls ih =>
      have same := alike.effect_eq config call
      obtain ⟨effects, left⟩ := ih (alike.apply (config.effect call device.store))
      simp only [effectsInTurn, ← same]
      exact ⟨congrArg _ effects, left⟩

/-- Changes in an order that is reached by exchanging neighbours at different places each come to the
same, and leave the same but for the order of the records.  The induction is on the exchanges; the
changes after an exchange start from devices that match. -/
theorem effectsInTurn_reorders (sound : config.Sound) {ι : Type} (call : ι → String × State)
    {first second : List ι}
    (reorders
      : Reorders (fun i j => ¬ config.Collide (call i).1 (call j).1) first second)
    (device : RecordingDevice)
    : let effects := config.effectsInTurn (first.map call) device
      let effects' := config.effectsInTurn (second.map call) device
      (first.zip effects).Perm (second.zip effects')
      ∧ (device.after effects).Matches (device.after effects') := by
  induction reorders generalizing device with
  | nil => exact ⟨.refl _, .refl device⟩
  | cons i rest ih =>
      obtain ⟨perm, left⟩ := ih ((config.effect (call i) device.store).apply device)
      exact ⟨perm.cons _, left⟩
  | @swap i j elsewhere rest =>
      have elsewhere' : ¬ config.Collide (call j).1 (call i).1 := fun same => elsewhere same.symm
      have exchanged := (effects_apart sound elsewhere device.store device.store).apply_comm device
      obtain ⟨effects, left⟩ := config.effectsInTurn_congr (rest.map call) exchanged
      simp only [List.map_cons, effectsInTurn, effect_apply elsewhere, effect_apply elsewhere',
        List.zip_cons_cons, effects]
      exact ⟨.swap .., effects ▸ left⟩
  | trans _ _ ih ih' =>
      obtain ⟨perm, left⟩ := ih device
      obtain ⟨perm', left'⟩ := ih' device
      exact ⟨perm.trans perm', left.trans left'⟩

variable (config) in
theorem length_effectsInTurn (calls : List (String × State))
    (device : RecordingDevice)
    : (config.effectsInTurn calls device).length = calls.length := by
  induction calls generalizing device with
  | nil => rfl
  | cons call calls ih => exact congrArg (· + 1) (ih _)

/-- In an order that keeps the order of the changes at one place each change comes to the same.  What
is left is the same but for the order of the records. -/
theorem effectsInTurn_of_perm (sound : config.Sound) (calls : List (String × State))
    {order : List Nat} (perm : order.Perm (List.range calls.length))
    (kept
      : ∀ j (_ : j < calls.length) i (_ : i < j),
          config.Collide calls[i].1 calls[j].1 → [i, j].Sublist order)
    (device : RecordingDevice)
    : let effects := config.effectsInTurn calls device
      let effects' := config.effectsInTurn (order.filterMap (calls[·]?)) device
      order.map (effects[·]?) = effects'.map some
      ∧ (device.after effects).Matches (device.after effects') := by
  intro effects effects'
  -- Calls are exchanged by their numbers, since the same call may be made twice.
  let call (i : Nat) : String × State := calls.getD i default
  have call_eq {i : Nat} (inside : i < calls.length) : calls[i] = call i := by
    simp [call, inside]
  have all : (List.range calls.length).map call = calls := by
    refine List.ext_getElem (by simp) fun i _ inside => ?_
    rw [call_eq inside, List.getElem_map, List.getElem_range]
  have picked : order.filterMap (calls[·]?) = order.map call := by
    rw [← List.filterMap_eq_map]
    refine List.filterMap_congr fun i member => ?_
    have inside : i < calls.length := List.mem_range.mp (perm.subset member)
    rw [List.getElem?_eq_getElem inside, call_eq]
    rfl
  -- Calls that do not collide may change places, so only the others have to keep their order.
  have kept' : ∀ i j, [i, j].Sublist (List.range calls.length)
      → ¬ ¬ config.Collide (call i).1 (call j).1 → [i, j].Sublist order := by
    intro i j pair touching
    have earlier : i < j := by simpa using List.pairwise_lt_range.sublist pair
    have later : j < calls.length := List.mem_range.mp (pair.subset (by simp))
    rw [not_not, ← call_eq later, ← call_eq (earlier.trans later)] at touching
    exact kept j later i earlier touching
  obtain ⟨zips, left⟩ := config.effectsInTurn_reorders sound call
    (Reorders.of_perm List.nodup_range perm kept') device
  rw [all, ← picked] at zips left
  refine ⟨map_getElem?_of_zip_perm ?_ ?_, left⟩
  · rw [length_effectsInTurn, picked, List.length_map]
  · rwa [length_effectsInTurn]

end Config

/-! ## Changes in another order -/

namespace Settings

/-- Changes in another order: each ends as it did, the attributes and the driver are left as they
were, and so are the calls about each id.  In both orders the writes recorded are those of the changes
that ended well, one after another. -/
structure Reordered (config : Config) (store : MemoryStore) (calls : List (String × State))
    (order : List Nat) (course other : Succession RecordingDevice (Except ChangeError Outcome))
    : Prop where
  endings : order.map (course.endings[·]?) = other.endings.map some
  store_eq : other.state.store.unrecorded = course.state.store.unrecorded
  written : course.state.store.writes = store.writes ++ config.writesOf calls course.endings
  written'
    : other.state.store.writes
      = store.writes ++ config.writesOf (order.filterMap (calls[·]?)) other.endings
  calls_eq
    : ∀ id,
        callsAbout id other.state.notifier.calls = callsAbout id course.state.notifier.calls

/-- Two changes in either order: each ends in the same way, the attributes and the driver are left
the same, and so are the calls about each id.  The writes recorded are exchanged. -/
structure Exchanged (config : Config) (store : MemoryStore) (first second : String × State)
    (ending ending' : Ending (Except ChangeError Outcome))
    (course other : Succession RecordingDevice (Except ChangeError Outcome)) : Prop where
  endings : course.endings = [ending, ending']
  endings' : other.endings = [ending', ending]
  store_eq : other.state.store.unrecorded = course.state.store.unrecorded
  written
    : course.state.store.writes
      = store.writes ++ (config.writesOf [first] [ending] ++ config.writesOf [second] [ending'])
  written'
    : other.state.store.writes
      = store.writes ++ (config.writesOf [second] [ending'] ++ config.writesOf [first] [ending])
  calls_eq
    : ∀ id,
        callsAbout id other.state.notifier.calls = callsAbout id course.state.notifier.calls

variable {config : Config} {locks : Locks}

/-- Changes may be put in any order that keeps the order of those at one place. -/
theorem changesInTurn_reordered (sound : config.Sound) (store : MemoryStore) (recorder : Recorder)
    (free : locks.Free) (calls : List (String × State)) {order : List Nat}
    (perm : order.Perm (List.range calls.length))
    (kept
      : ∀ j (_ : j < calls.length) i (_ : i < j),
          config.Collide calls[i].1 calls[j].1 → [i, j].Sublist order)
    : Reordered config store calls order
        ((ofConfig config).changesInTurn calls ⟨store, recorder⟩ locks)
        ((ofConfig config).changesInTurn (order.filterMap (calls[·]?)) ⟨store, recorder⟩ locks) := by
  obtain ⟨effects, left⟩ := config.effectsInTurn_of_perm sound calls perm kept ⟨store, recorder⟩
  obtain ⟨endings, state⟩ := changesInTurn_take_effect sound calls ⟨store, recorder⟩ free
  obtain ⟨endings', state'⟩ :=
    changesInTurn_take_effect sound (order.filterMap (calls[·]?)) ⟨store, recorder⟩ free
  refine ⟨?_, ?_, ?_, ?_, fun id => ?_⟩
  · rw [endings, endings', List.map_map]
    simpa [Function.comp_def] using congrArg (List.map (Option.map (·.ending))) effects
  · rw [state, state']
    exact left.store_eq.symm
  · rw [endings, state]
    exact config.writes_after calls ⟨store, recorder⟩
  · rw [endings', state']
    exact config.writes_after _ ⟨store, recorder⟩
  · rw [state, state']
    exact (left.calls_eq id).symm

/-- Two changes at different places are a case of changes in another order. -/
theorem changesInTurn_exchanged (sound : config.Sound) (store : MemoryStore) (recorder : Recorder)
    (free : locks.Free) {first second : String × State}
    (elsewhere : ¬ config.Collide first.1 second.1)
    : ∃ ending ending',
        Exchanged config store first second ending ending'
          ((ofConfig config).changesInTurn [first, second] ⟨store, recorder⟩ locks)
          ((ofConfig config).changesInTurn [second, first] ⟨store, recorder⟩ locks) := by
  have kept : ∀ j (_ : j < [first, second].length) i (_ : i < j),
      config.Collide [first, second][i].1 [first, second][j].1 → [i, j].Sublist [1, 0] := by
    intro j inside i earlier touching
    have only : j < 2 := inside
    obtain ⟨rfl, rfl⟩ : i = 0 ∧ j = 1 := by omega
    exact (elsewhere touching).elim
  let course := (ofConfig config).changesInTurn [first, second] ⟨store, recorder⟩ locks
  let other := (ofConfig config).changesInTurn [second, first] ⟨store, recorder⟩ locks
  have reordered : Reordered config store [first, second] [1, 0] course other :=
    changesInTurn_reordered sound store recorder free [first, second] (.swap 0 1 []) kept
  obtain ⟨ending, ending', endings⟩ : ∃ ending ending', course.endings = [ending, ending'] :=
    ⟨_, _, (changesInTurn_take_effect sound [first, second] ⟨store, recorder⟩ free).1⟩
  have endings' : other.endings = [ending', ending] := by
    have told := reordered.endings
    rw [endings] at told
    exact (List.map_injective_iff.mpr (fun _ _ => Option.some.inj) told).symm
  have written : course.state.store.writes = store.writes ++ config.writesOf [first, second] _ :=
    reordered.written
  have written' : other.state.store.writes = store.writes ++ config.writesOf [second, first] _ :=
    reordered.written'
  rw [endings, config.writesOf_cons] at written
  rw [endings', config.writesOf_cons] at written'
  exact ⟨ending, ending', endings, endings', reordered.store_eq, written, written',
    reordered.calls_eq⟩

/-- Changes at different places commute, whatever the driver is told to do: in either order each ends
in the same way, and but for the order in which the writes are recorded the same is left.  So changes
may be put in any order that keeps the order of those at one place. -/
theorem changes_reorder (valid : config.validate = .ok ()) (store : MemoryStore)
    (recorder : Recorder) (free : locks.Free)
    : let inTurn (calls : List (String × State)) :=
        (ofConfig config).changesInTurn calls ⟨store, recorder⟩ locks
      (∀ first second : String × State,
        ¬ config.Collide first.1 second.1
        → ∃ ending ending',
            Exchanged config store first second ending ending' (inTurn [first, second])
              (inTurn [second, first]))
      ∧ ∀ (calls : List (String × State)) (order : List Nat),
          order.Perm (List.range calls.length)
          → (∀ j (_ : j < calls.length) i (_ : i < j),
              config.Collide calls[i].1 calls[j].1 → [i, j].Sublist order)
          → Reordered config store calls order (inTurn calls)
              (inTurn (order.filterMap (calls[·]?))) := by
  have sound := Config.validate_eq_ok_iff.mp valid
  exact ⟨fun _ _ elsewhere => changesInTurn_exchanged sound store recorder free elsewhere,
    fun calls _ perm kept => changesInTurn_reordered sound store recorder free calls perm kept⟩

/-- The driver of a charger puts its own value over what is written to the light.  A change of the
light and one of an unknown key go before the changes of two switches over one attribute. -/
theorem charger_changes_reorder
    : let store := MemoryStore.charger.intervene (.override ⟨"/sys/light/"⟩ (some "on\n"))
      let calls := [("fast", State.enabled), ("turbo", .enabled), ("slow", .enabled),
        ("light", .disabled)]
      let inTurn (calls : List (String × State)) :=
        (ofConfig .charger).changesInTurn calls ⟨store, .fresh true⟩ .fresh
      Config.charger.validate = .ok ()
      ∧ Locks.fresh.Free
      ∧ ¬ Config.charger.Collide "turbo" "light"
      ∧ Config.charger.Collide "fast" "turbo"
      ∧ (∃ ending ending',
          Exchanged .charger store ("turbo", .enabled) ("light", .disabled) ending ending'
            (inTurn [("turbo", .enabled), ("light", .disabled)])
            (inTurn [("light", .disabled), ("turbo", .enabled)]))
      ∧ Reordered .charger store calls [3, 2, 0, 1] (inTurn calls)
          (inTurn [("light", .disabled), ("slow", .enabled), ("fast", .enabled),
            ("turbo", .enabled)]) := by
  intro store calls inTurn
  obtain ⟨exchanged, reordered⟩ :=
    changes_reorder Config.charger_valid store (.fresh true) Locks.free_fresh
  have elsewhere : ¬ Config.charger.Collide "turbo" "light" := by decide +kernel
  refine ⟨Config.charger_valid, Locks.free_fresh, elsewhere, by decide +kernel,
    exchanged _ _ elsewhere, reordered calls [3, 2, 0, 1] (by decide) (by decide +kernel)⟩

end Settings

end ModeSwitch
