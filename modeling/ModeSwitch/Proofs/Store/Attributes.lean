import ModeSwitch.Store.Memory

/-! Attributes of a store in memory under writes.

A write reaches one place only, and it neither adds nor removes an attribute.  A driver that accepts
every write makes each attribute a register: it holds the line that was written last.
-/

namespace ModeSwitch.MemoryStore

@[simp]
theorem valueAt_nil (place : Place) : valueAt [] place = none :=
  rfl

theorem valueAt_cons (entry : Place × String) (rest : List (Place × String)) (place : Place)
    : valueAt (entry :: rest) place
      = if entry.1 = place then some entry.2 else valueAt rest place := by
  by_cases h : entry.1 = place <;> simp [valueAt, h]

def alterAt (table : List (Place × String)) (place : Place) (alter : String → String)
    : List (Place × String) :=
  table.map fun entry => if entry.1 = place then (entry.1, alter entry.2) else entry

theorem replaceAt_eq_alterAt (table : List (Place × String)) (place : Place) (value : String)
    : replaceAt table place value = alterAt table place fun _ => value :=
  rfl

theorem alterAt_id (table : List (Place × String)) (place : Place)
    : alterAt table place (fun value => value) = table := by
  simp [alterAt]

/-- Values that are altered twice are altered once by both. -/
theorem alterAt_alterAt (table : List (Place × String)) (place : Place)
    (alter alter' : String → String)
    : alterAt (alterAt table place alter) place alter'
      = alterAt table place fun value => alter' (alter value) := by
  unfold alterAt
  rw [List.map_map]
  refine List.map_congr_left fun entry _ => ?_
  by_cases here : entry.1 = place <;> simp [here]

/-- The values of different places are altered in either order. -/
theorem alterAt_comm {place other : Place} (h : place ≠ other) (table : List (Place × String))
    (alter alter' : String → String)
    : alterAt (alterAt table place alter) other alter'
      = alterAt (alterAt table other alter') place alter := by
  unfold alterAt
  rw [List.map_map, List.map_map]
  refine List.map_congr_left fun entry _ => ?_
  by_cases first : entry.1 = place
  · have second : entry.1 ≠ other := fun same => h (first.symm.trans same)
    simp [first, first ▸ second]
  · by_cases second : entry.1 = other
    · simp [second, h.symm]
    · simp [first, second]

/-- Altering the values of a place is not seen at any other place, and makes none appear or vanish. -/
theorem valueAt_alterAt (table : List (Place × String)) (place other : Place)
    (alter : String → String)
    : valueAt (alterAt table place alter) other
      = (valueAt table other).map fun value => if other = place then alter value else value := by
  induction table with
  | nil => rfl
  | cons entry rest ih =>
      simp only [alterAt, List.map_cons, valueAt_cons] at ih ⊢
      by_cases here : entry.1 = other
      · subst here
        by_cases same : entry.1 = place <;> simp [same]
      · by_cases same : entry.1 = place
        · simp only [same, if_true, ih, if_neg (same ▸ here)]
        · simp only [same, if_false, ih, if_neg here]

theorem valueAt_append_singleton (table : List (Place × String)) (place : Place) (value : String)
    : valueAt (table ++ [(place, value)]) place = (valueAt table place).or (some value) := by
  rw [valueAt, valueAt, List.find?_append]
  cases table.find? (·.1 = place) <;> simp

/-- What is put at a place is found there. -/
theorem valueAt_putAt_self (table : List (Place × String)) (place : Place) (value : String)
    : valueAt (putAt table place value) place = some value := by
  unfold putAt
  split
  · rename_i held
    obtain ⟨before, found⟩ := Option.isSome_iff_exists.mp held
    rw [replaceAt_eq_alterAt, valueAt_alterAt, found, Option.map_some, if_pos rfl]
  · rename_i absent
    rw [valueAt_append_singleton, Option.not_isSome_iff_eq_none.mp absent, Option.none_or]

/-- An attribute that is put in place from outside is read as it was put, while reads succeed. -/
theorem readAt_intervene_put {store : MemoryStore} (readable : store.failReads = false)
    (path : AttrPath) (contents : String)
    : (store.intervene (.put path contents)).readAt path = .ok contents := by
  simp [readAt, intervene, contents?, valueAt_putAt_self, readable]

/-! ## Writes -/

/-- What an attribute holds after a write that goes through. -/
def stored (store : MemoryStore) (path : AttrPath) (line before : String) : String :=
  (valueAt store.overrides path.place).getD (if store.behaviour = .ignore then before else line)

/-- A write alters the attributes at its place, as the driver has it. -/
theorem files_accepting (store : MemoryStore) (path : AttrPath) (line : String)
    : (store.accepting path line).files
      = alterAt store.files path.place (store.stored path line) := by
  unfold stored
  cases forced : valueAt store.overrides path.place with
  | none =>
      by_cases ignored : store.behaviour = .ignore
      · simp [accepting, forced, ignored, alterAt_id]
      · simp [accepting, forced, ignored, replaceAt_eq_alterAt]
  | some value =>
      by_cases ignored : store.behaviour = .ignore
      · simp [accepting, forced, ignored, replaceAt_eq_alterAt]
      · simp [accepting, forced, ignored, replaceAt_eq_alterAt, alterAt_alterAt]

/-- A write that goes through is seen at its place only. -/
theorem contents_accepting (store : MemoryStore) (path other : AttrPath) (line : String)
    : (store.accepting path line).contents? other
      = (store.contents? other).map fun before =>
          if other.SamePlace path then store.stored path line before else before := by
  rw [contents?, files_accepting, valueAt_alterAt]
  rfl

/-- A write does not reach an attribute at another place. -/
theorem contents_accepting_of_ne {path other : AttrPath} (h : ¬ other.SamePlace path)
    (store : MemoryStore) (line : String)
    : (store.accepting path line).contents? other = store.contents? other := by
  simp [contents_accepting, h]

/-- Reading any other place finds what it found before the write. -/
theorem readAt_accepting_of_ne {path other : AttrPath} (h : ¬ other.SamePlace path)
    (store : MemoryStore) (line : String)
    : (store.accepting path line).readAt other = store.readAt other := by
  simp only [readAt, contents_accepting_of_ne h]
  rfl

/-- All spellings of a path find the same attribute. -/
theorem contents_congr {path other : AttrPath} (h : path.SamePlace other) (store : MemoryStore)
    : store.contents? path = store.contents? other := by
  have heq : path.place = other.place := h
  simp only [contents?, heq]

theorem holds_congr {path other : AttrPath} (h : path.SamePlace other) (store : MemoryStore)
    : store.holds path = store.holds other := by
  rw [holds, holds, contents_congr h]

theorem readAt_congr {path other : AttrPath} (h : path.SamePlace other) (store : MemoryStore)
    : store.readAt path = store.readAt other := by
  rw [readAt, readAt, contents_congr h]

/-- A write neither adds nor removes an attribute, whatever the driver makes of it. -/
theorem holds_accepting (store : MemoryStore) (path other : AttrPath) (line : String)
    : (store.accepting path line).holds other = store.holds other := by
  simp [holds, contents_accepting]

def unrecorded (store : MemoryStore) : MemoryStore :=
  { store with writes := [] }

/-- Writes at different places leave the same in either order, but for the order in which they are
recorded. -/
theorem accepting_comm {path other : AttrPath} (h : ¬ path.SamePlace other) (store : MemoryStore)
    (line line' : String)
    : ((store.accepting path line).accepting other line').unrecorded
      = ((store.accepting other line').accepting path line).unrecorded := by
  have files : ((store.accepting path line).accepting other line').files
      = ((store.accepting other line').accepting path line).files := by
    simp only [files_accepting]
    exact alterAt_comm h store.files _ _
  simpa [unrecorded, accepting] using files

/-- A driver that accepts every write and tells what it holds: no read fails, no value is put over
what was written, and no write panics. -/
structure Accepts (store : MemoryStore) : Prop where
  obeys : store.behaviour = .accept
  readable : store.failReads = false
  faithful : store.overrides = []
  calm : store.panicking = false

namespace Accepts

variable {store : MemoryStore}

/-- An accepting driver stays one. -/
theorem after_write (h : store.Accepts) (path : AttrPath) (line : String)
    : (store.accepting path line).Accepts :=
  ⟨h.obeys, h.readable, h.faithful, h.calm⟩

/-- An attribute of an accepting driver holds the line that was written to its place, under
whatever spelling of the path. -/
theorem contents_accepting (h : store.Accepts) (path other : AttrPath) (line : String)
    : (store.accepting path line).contents? other
      = if other.SamePlace path then (store.contents? other).map fun _ => line
        else store.contents? other := by
  by_cases same : other.SamePlace path
  · simp [MemoryStore.contents_accepting, stored, h.obeys, h.faithful, same]
  · simp [MemoryStore.contents_accepting, same]

end Accepts

/-- The attributes of a charger that is switched off, with an accepting driver. -/
def charger : MemoryStore :=
  { empty with
    files := [(⟨true, ["sys", "charge", "mode"]⟩, "0\n"), (⟨true, ["sys", "light"]⟩, "off\n")] }

theorem charger_accepts : charger.Accepts :=
  ⟨rfl, rfl, rfl, rfl⟩

end ModeSwitch.MemoryStore
