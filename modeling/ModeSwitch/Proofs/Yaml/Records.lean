import ModeSwitch.Proofs.Yaml.Fields

/-! Lists and records as they are written and read.

A list is read item by item, and a record field by field.  What breaks a rule of a list or of a record
is not read, whatever else it holds.
-/

namespace ModeSwitch.Yaml

/-! ## Lists -/

/-- A sequence whose items write values. -/
inductive Node.Lists {α : Type} (Writes : Node → α → Prop) : Node → List α → Prop where
  | sequence (start : Position) (anchor : Option Nat) {items : List Node} {values : List α}
    (each : List.Forall₂ Writes items values)
    : Lists Writes (.sequence start ⟨anchor, none⟩ items) values

/-- A node that is no list: an item of a sequence breaks a rule, or the node is no sequence. -/
inductive Node.BreaksList (Breaks : Node → Prop) : Node → Prop where
  | item (start : Position) (properties : Properties) {items : List Node} {item : Node}
    (member : item ∈ items) (breaks : Breaks item)
    : BreaksList Breaks (.sequence start properties items)
  | mapping (start : Position) (properties : Properties) (entries : List (Node × Node))
    : BreaksList Breaks (.mapping start properties entries)
  | scalar {node : Node} (said : node.SaysSomething) : BreaksList Breaks node

namespace Decode

section Lists

variable {α : Type} {item : Path → Node → Decode α}

/-- A sequence is read item by item. -/
theorem eachFrom_eq_pure {nodes : List Node} {values : List α}
    (each : List.Forall₂ (fun node value => ∀ path, item path node = pure value) nodes values)
    (path : Path) (index : Nat)
    : eachFrom item path index nodes = pure values := by
  induction each generalizing index with
  | nil => rfl
  | cons first _ ih => simp only [eachFrom, first, pure_bind, ih]

/-- An item that cannot be read makes its sequence unreadable. -/
theorem eachFrom_fails {nodes : List Node} {node : Node} (member : node ∈ nodes)
    (fails : ∀ path, Fails (item path node)) (path : Path) (index : Nat)
    : Fails (eachFrom item path index nodes) := by
  induction nodes generalizing index with
  | nil => cases member
  | cons head rest ih =>
      rcases List.mem_cons.mp member with rfl | member
      · exact (fails _).bind
      · exact ensures_bind fun _ => (ih member _).bind

variable (around : Surroundings) (path : Path) {node : Node}

theorem list_eq_pure {Writes : Node → α → Prop} {values : List α}
    (reads : ∀ node value, Writes node value → ∀ path, item path node = pure value)
    (lists : node.Lists Writes values)
    : list around item path node = pure values := by
  cases lists with
  | sequence start anchor each =>
      have each := eachFrom_eq_pure (each.imp fun node value writes path =>
        reads node value writes path) path 0
      unfold list
      simp only [follow, pure_bind, each, located_pure]

/-- A list with an item that breaks a rule is not read, and neither is anything but a list. -/
theorem list_fails {Breaks : Node → Prop}
    (fails : ∀ node, Breaks node → ∀ path, Fails (item path node))
    (breaks : node.BreaksList Breaks)
    : Fails (list around item path node) := by
  cases breaks with
  | item start properties member breaks =>
      unfold list
      simp only [follow, pure_bind]
      exact (eachFrom_fails member (fails _ breaks) path 0).located _ _
  | mapping start properties entries =>
      unfold list
      simp only [follow, pure_bind]
      exact (fails_unexpected _ _).located _ _
  | scalar said =>
      have empty := said.isEmpty_eq
      cases said with
      | scalar start anchor style filled =>
          unfold list
          simp only [follow, pure_bind, empty]
          exact (fails_unexpected _ _).located _ _

end Lists

end Decode

/-! ## Records -/

/-- A mapping that writes the fields of a record. -/
inductive Node.WritesRecord (forms : List FieldForm) : Node → Prop where
  | mapping (start : Position) (anchor : Option Nat) {entries : List (NamedEntry Node Node)}
    (write : WriteFields forms entries)
    : WritesRecord forms (.mapping start ⟨anchor, none⟩ (entries.map NamedEntry.pair))

/-- A node that is no record: a mapping that breaks a rule, or no mapping at all. -/
inductive Node.BreaksRecord (rules : List FieldRule) : Node → Prop where
  | mapping (start : Position) (properties : Properties) {entries : List (NamedEntry Node Node)}
    (spelled : ∀ entry ∈ entries, entry.key.Spells entry.name)
    (breaks : BreakFields rules entries)
    : BreaksRecord rules (.mapping start properties (entries.map NamedEntry.pair))
  | sequence (start : Position) (properties : Properties) (items : List Node)
    : BreaksRecord rules (.sequence start properties items)
  | scalar {node : Node} (said : node.SaysSomething) : BreaksRecord rules node

namespace Decode

section Records

variable {α ρ : Type} {known : List (Field (Path × Node) ρ)} {nothing : ρ}
  {complete : ρ → Except Mismatch α} (around : Surroundings) (name : String)

/-- The node at a path, whatever the path. -/
def IsAt (placed : Path × Node) (node : Node) : Prop :=
  placed.2 = node

def keyName (path : Path) (key : Node) : Decode (Option String) := do
  return some (← text around "field identifier" path key)

def placed (path : Path) (entry : NamedEntry Node Node) : NamedEntry Node (Path × Node) :=
  ⟨entry.name, entry.key, (partOf entry.key :: path, entry.value)⟩

theorem record_mapping (path : Path) (start : Position) (properties : Properties)
    (entries : List (NamedEntry Node Node))
    : record around name known nothing complete path
        (.mapping start properties (entries.map NamedEntry.pair))
      = located path start (do
          let parts ← fields (keyName around path) known
            ((entries.map (placed path)).map NamedEntry.pair) nothing
          ofCheck (complete parts)) := by
  unfold record
  simp only [follow, pure_bind, List.map_map]
  rfl

/-- The entries of a mapping are read as they are written, since their keys spell their names. -/
theorem carries_placed (path : Path) {entries : List (NamedEntry Node Node)}
    (spelled : ∀ entry ∈ entries, entry.key.Spells entry.name)
    : List.Forall₂ (Carries (keyName around path) IsAt) (entries.map (placed path)) entries := by
  rw [List.forall₂_map_left_iff, List.forall₂_same]
  intro entry member
  refine ⟨?_, rfl, rfl⟩
  simp only [placed, keyName, text_of_spells around _ path (spelled entry member), pure_bind]

theorem record_eq_pure {among : List String → ρ} {forms : List FieldForm} {value : α}
    (reads : List.Forall₂ (Reads IsAt among) known forms)
    (skips : ∀ name, name ∉ forms.map (·.name) → ∀ done, among (name :: done) = among done)
    (start : among [] = nothing)
    (completes
      : ∀ names,
          (∀ form ∈ forms, form.name ∉ names → form.mayOmit) → complete (among names) = .ok value)
    (path : Path) {node : Node} (writes : node.WritesRecord forms)
    : record around name known nothing complete path node = pure value := by
  cases writes with
  | mapping position anchor write =>
      rw [record_mapping, ← start,
        parts_eq_pure reads skips completes (carries_placed around path write.spelled) write]
      rfl

/-- A node that breaks a rule of a record is not read, whatever else it holds. -/
theorem record_fails {rules : List FieldRule} (separate : Separate known)
    (obeys : List.Forall₂ (Obeys IsAt complete) known rules)
    (start : ∀ field ∈ known, field.isSet nothing = false) (path : Path) {node : Node}
    (breaks : node.BreaksRecord rules)
    : Fails (record around name known nothing complete path node) := by
  cases breaks with
  | mapping position properties spelled breaks =>
      rw [record_mapping]
      exact (parts_fail separate obeys start (carries_placed around path spelled) breaks).located _ _
  | sequence position properties items =>
      unfold record
      simp only [follow, pure_bind]
      exact (fails_unexpected _ _).located _ _
  | scalar said =>
      have empty := said.isEmpty_eq
      cases said with
      | scalar position anchor style filled =>
          unfold record
          simp only [follow, pure_bind, empty]
          exact (fails_unexpected _ _).located _ _

end Records

/-! ## Values that may be missing -/

section Optional

variable {α : Type} (around : Surroundings) {value : Path → Node → Decode α} (path : Path)
  {node : Node}

theorem optional_of_saysNothing (empty : node.SaysNothing)
    : optional around value path node = pure none := by
  cases empty with
  | scalar start anchor null =>
      unfold optional
      simp only [follow, pure_bind]
      simp [null]

theorem optional_of_writesRecord {forms : List FieldForm} (writes : node.WritesRecord forms)
    {found : α} (read : value path node = pure found)
    : optional around value path node = pure (some found) := by
  cases writes with
  | mapping start anchor write =>
      unfold optional
      simp only [follow, pure_bind, read]

/-- A record that breaks a rule is not read where it might be left out either. -/
theorem optional_fails {rules : List FieldRule} (breaks : node.BreaksRecord rules)
    (fails : Fails (value path node))
    : Fails (optional around value path node) := by
  unfold optional
  cases breaks with
  | mapping start properties spelled broken =>
      simp only [follow, pure_bind]
      exact fails.bind
  | sequence start properties items =>
      simp only [follow, pure_bind]
      exact fails.bind
  | scalar said =>
      cases said with
      | scalar start anchor style filled =>
          simp only [follow, pure_bind]
          cases style with
          | plain =>
              obtain ⟨filled, some⟩ := not_null_of_filled filled
              simp only [filled, some]
              exact fails.bind
          | quoted => exact fails.bind
          | literal => exact fails.bind
          | folded => exact fails.bind

end Optional

end Decode

end ModeSwitch.Yaml
