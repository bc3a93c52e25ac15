import ModeSwitch.Device

/-! Attributes in memory.

The store keeps the contents of attributes by place, so all spellings of a path reach the same
attribute.  Its driver can be told to ignore or refuse writes, to refuse reads, to put a value of
its own over what was written, and to panic.
-/

namespace ModeSwitch

/-- How a driver treats a write. -/
inductive WriteBehaviour where
  | accept
  /-- The write succeeds, and the value stays as it was. -/
  | ignore
  | fail
  deriving DecidableEq, Repr

/-- Attributes in memory, with the whims of their driver. -/
structure MemoryStore where
  files : List (Place × String)
  behaviour : WriteBehaviour
  failReads : Bool
  /-- Values that the driver puts in place of what was written. -/
  overrides : List (Place × String)
  panicking : Bool
  /-- The writes that succeeded, in order, with the paths as they were spelled. -/
  writes : List (AttrPath × String)
  deriving DecidableEq, Repr

namespace MemoryStore

/-- A store without attributes whose driver accepts every write. -/
def empty : MemoryStore := ⟨[], .accept, false, [], false, []⟩

/-- The value of a place in a table; the first entry counts. -/
def valueAt (table : List (Place × String)) (place : Place) : Option String :=
  (table.find? (·.1 = place)).map (·.2)

/-- The table with the value of a place replaced, where it has one. -/
def replaceAt (table : List (Place × String)) (place : Place) (value : String) :
    List (Place × String) :=
  table.map fun entry => if entry.1 = place then (entry.1, value) else entry

def eraseAt (table : List (Place × String)) (place : Place) : List (Place × String) :=
  table.filter (·.1 ≠ place)

/-- The table with a value at a place: replaced where there is one, appended otherwise. -/
def putAt (table : List (Place × String)) (place : Place) (value : String) :
    List (Place × String) :=
  if (valueAt table place).isSome then replaceAt table place value
  else table ++ [(place, value)]

/-- The contents of the attribute at a path, whatever the driver says about reads. -/
def contents? (store : MemoryStore) (path : AttrPath) : Option String :=
  valueAt store.files path.place

def holds (store : MemoryStore) (path : AttrPath) : Bool :=
  (store.contents? path).isSome

def readAt (store : MemoryStore) (path : AttrPath) : Except StoreError String :=
  if store.failReads then .error .readDenied
  else
    match store.contents? path with
    | some contents => .ok contents
    | none => .error .noAttribute

/-- The store after a write that goes through: recorded, stored unless the driver ignores it, and
then replaced if the driver has a value of its own. -/
def accepting (store : MemoryStore) (path : AttrPath) (contents : String) : MemoryStore :=
  let place := path.place
  let files :=
    if store.behaviour = .ignore then store.files else replaceAt store.files place contents
  let files :=
    match valueAt store.overrides place with
    | some value => replaceAt files place value
    | none => files
  { store with files, writes := store.writes ++ [(path, contents)] }

/-- The store as a device sees it.  A write panics before it changes anything. -/
def service : Store MemoryStore where
  probe path store := ⟨some (store.holds path), [], store⟩
  read path store := ⟨some (store.readAt path), [], store⟩
  write path contents store :=
    if store.panicking then ⟨none, [], store⟩
    else if store.behaviour = .fail ∨ !store.holds path then
      ⟨some (.error .noAttribute), [], store⟩
    else ⟨some (.ok ()), [], store.accepting path contents⟩

inductive Intervention where
  | put (path : AttrPath) (contents : String)
  | remove (path : AttrPath)
  | behave (behaviour : WriteBehaviour)
  | failReads (on : Bool)
  | override (path : AttrPath) (value : Option String)
  | panicWrites (on : Bool)
  deriving DecidableEq, Repr

def intervene (store : MemoryStore) : Intervention → MemoryStore
  | .put path contents => { store with files := putAt store.files path.place contents }
  | .remove path => { store with files := eraseAt store.files path.place }
  | .behave behaviour => { store with behaviour }
  | .failReads on => { store with failReads := on }
  | .override path (some value) =>
      { store with overrides := putAt store.overrides path.place value }
  | .override path none => { store with overrides := eraseAt store.overrides path.place }
  | .panicWrites on => { store with panicking := on }

end MemoryStore

end ModeSwitch
