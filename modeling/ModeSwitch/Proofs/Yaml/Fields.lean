import Mathlib.Data.List.Forall2
import Mathlib.Data.List.Nodup
import ModeSwitch.Proofs.Yaml.Scalars

/-! Fields of a record as they are written and read.

A record is written field by field in any order.  Reading it keeps, at every point, what the fields
read so far say, so nothing but which of them were read matters.  A field that was left out is still
missing at the end, and a field that is written twice stops the reading.
-/

namespace ModeSwitch.Yaml

/-! ## How fields are written -/

/-- An entry of a record: its name, the key that says it, and the value. -/
structure NamedEntry (κ ν : Type) where
  name : String
  key : κ
  value : ν

def NamedEntry.pair {κ ν : Type} (entry : NamedEntry κ ν) : κ × ν :=
  (entry.key, entry.value)

def namesOf {κ ν : Type} (entries : List (NamedEntry κ ν)) : List String :=
  entries.map (·.name)

structure FieldForm where
  name : String
  Writes : Node → Prop
  /-- May the field be left out? -/
  mayOmit : Prop

/-- The entries write each field once, or leave it out where they may.  What else they write are
texts, under different names. -/
structure WriteFields (forms : List FieldForm) (entries : List (NamedEntry Node Node)) : Prop where
  spelled : ∀ entry ∈ entries, entry.key.Spells entry.name
  distinct : (namesOf entries).Nodup
  written
    : ∀ form ∈ forms, ∀ entry ∈ entries, entry.name = form.name → form.Writes entry.value
  omitted : ∀ form ∈ forms, form.name ∉ namesOf entries → form.mayOmit
  additional
    : ∀ entry ∈ entries,
        entry.name ∉ forms.map (·.name) → ∃ text, entry.value.Spells text

structure FieldRule where
  name : String
  /-- Has the field no default? -/
  required : Prop
  Refuses : Node → Prop

/-- Entries that break a rule: a field is missing, or written twice, or has a value that it cannot
have.  Nothing else is said about them. -/
inductive BreakFields (rules : List FieldRule) (entries : List (NamedEntry Node Node)) : Prop where
  | missing (rule : FieldRule) (member : rule ∈ rules) (required : rule.required)
    (absent : rule.name ∉ namesOf entries)
  | repeated (rule : FieldRule) (member : rule ∈ rules)
    (twice : 2 ≤ (namesOf entries).count rule.name)
  | refused (rule : FieldRule) (member : rule ∈ rules) (entry : NamedEntry Node Node)
    (inside : entry ∈ entries) (same : entry.name = rule.name) (refuses : rule.Refuses entry.value)

/-! ## How fields are read -/

/-- Fields that do not get in each other's way: reading one of them sets that one and no other. -/
structure Separate {ν ρ : Type} (known : List (Decode.Field ν ρ)) : Prop where
  distinct : (known.map (·.name)).Nodup
  sets
    : ∀ field ∈ known,
        ∀ other ∈ known,
          ∀ value record,
            Decode.Ensures (field.read value record) fun later =>
              other.isSet later = (decide (field.name = other.name) || other.isSet record)

namespace Decode

section Fields

variable {κ ν ρ : Type} {nameOf : κ → Decode (Option String)} {known : List (Field ν ρ)}
  {entries : List (NamedEntry κ ν)}

/-- A field is found by its name. -/
theorem find?_known (distinct : (known.map (·.name)).Nodup) {field : Field ν ρ}
    (member : field ∈ known)
    : known.find? (some ·.name = some field.name) = some field := by
  cases found : known.find? (some ·.name = some field.name) with
  | none =>
      have missed := List.find?_eq_none.mp found field member
      simp at missed
  | some other =>
      have same : other.name = field.name := by simpa using List.find?_some found
      rw [List.inj_on_of_nodup_map distinct (List.mem_of_find?_eq_some found) member same]

/-- Reading entries in their order keeps what the names read so far stand for, by induction on the
entries. -/
theorem fields_eq_pure {among : List String → ρ}
    (named : ∀ entry ∈ entries, nameOf entry.key = pure (some entry.name))
    (reads
      : ∀ entry ∈ entries,
          ∀ field ∈ known,
            field.name = entry.name
            → ∀ done,
                entry.name ∉ done
                → field.isSet (among done) = false
                  ∧ field.read entry.value (among done) = pure (among (entry.name :: done)))
    (skips
      : ∀ name,
          (∀ field ∈ known, field.name ≠ name) → ∀ done, among (name :: done) = among done)
    (distinct : (namesOf entries).Nodup) {done : List String}
    (fresh : ∀ entry ∈ entries, entry.name ∉ done)
    : fields nameOf known (entries.map NamedEntry.pair) (among done)
      = pure (among ((namesOf entries).reverse ++ done)) := by
  induction entries generalizing done with
  | nil => rfl
  | cons entry rest ih =>
      obtain ⟨apart, distinct⟩ := List.nodup_cons.mp distinct
      have beyond : ∀ other ∈ rest, other.name ∉ entry.name :: done := by
        intro other member
        have unlike : other.name ≠ entry.name := fun same =>
          apart (List.mem_map.mpr ⟨other, member, same⟩)
        simp [unlike, fresh other (List.mem_cons_of_mem _ member)]
      have later := ih (fun other member => named other (List.mem_cons_of_mem _ member))
        (fun other member => reads other (List.mem_cons_of_mem _ member)) distinct beyond
      -- The names that were read stand in reverse, the last one first.
      have order : (namesOf (entry :: rest)).reverse ++ done
          = (namesOf rest).reverse ++ entry.name :: done := by
        simp [namesOf]
      rw [order, ← later]
      simp only [List.map_cons, NamedEntry.pair, fields, named entry List.mem_cons_self, pure_bind]
      cases found : known.find? (some ·.name = some entry.name) with
      | none =>
          have unknown (field : Field ν ρ) (member : field ∈ known) : field.name ≠ entry.name := by
            simpa using List.find?_eq_none.mp found field member
          rw [skips entry.name unknown done]
      | some field =>
          have same : field.name = entry.name := by simpa using List.find?_some found
          obtain ⟨unset, read⟩ := reads entry List.mem_cons_self field
            (List.mem_of_find?_eq_some found) same done (fresh entry List.mem_cons_self)
          simp only [unset, read, pure_bind, Bool.false_eq_true, if_false]

section Separate

variable (separate : Separate known) {field : Field ν ρ} (member : field ∈ known)
include separate member

/-- One entry after the other: what reading an entry may do to a field. -/
theorem fields_cons_ensures {Holds : ρ → Prop} (entry : NamedEntry κ ν) (record : ρ)
    (spares
      : entry.name ≠ field.name
        → ∀ later,
            field.isSet later = field.isSet record
            → Ensures (fields nameOf known (entries.map NamedEntry.pair) later) Holds)
    (sets
      : entry.name = field.name
        → ∀ later,
            field.isSet later = true
            → field.isSet record = false
            → Ensures (fields nameOf known (entries.map NamedEntry.pair) later) Holds)
    (named : nameOf entry.key = pure (some entry.name))
    : Ensures (fields nameOf known ((entry :: entries).map NamedEntry.pair) record) Holds := by
  simp only [List.map_cons, NamedEntry.pair, fields, named, pure_bind]
  by_cases same : entry.name = field.name
  · rw [same, find?_known separate.distinct member]
    dsimp only
    cases set : field.isSet record with
    | true => exact ensures_refuse _
    | false =>
        refine (separate.sets field member field member entry.value record).bind ?_
        intro later found
        exact sets same later (by simpa using found) set
  · cases found : known.find? (some ·.name = some entry.name) with
    | none => exact spares same record rfl
    | some other =>
        have named : other.name = entry.name := by simpa using List.find?_some found
        have apart : other.name ≠ field.name := named ▸ same
        dsimp only
        split
        · exact ensures_refuse _
        · refine (separate.sets other (List.mem_of_find?_eq_some found) field member entry.value
            record).bind ?_
          intro later kept
          exact spares same later (by simpa [apart] using kept)

/-- A field that no entry names stays as it is. -/
theorem fields_ensures_absent (named : ∀ entry ∈ entries, nameOf entry.key = pure (some entry.name))
    (absent : field.name ∉ namesOf entries) (record : ρ)
    : Ensures (fields nameOf known (entries.map NamedEntry.pair) record) fun later =>
        field.isSet later = field.isSet record := by
  induction entries generalizing record with
  | nil => exact ensures_pure rfl
  | cons entry rest ih =>
      obtain ⟨apart, absent⟩ := not_or.mp (mt List.mem_cons.mpr absent)
      refine fields_cons_ensures separate member entry record ?_ (fun same => (apart same.symm).elim)
        (named entry List.mem_cons_self)
      intro _ later kept
      have rest := ih (fun other member => named other (List.mem_cons_of_mem _ member)) absent later
      rwa [kept] at rest

/-- A field that is set is not read again. -/
theorem fields_fails_of_set (named : ∀ entry ∈ entries, nameOf entry.key = pure (some entry.name))
    (again : field.name ∈ namesOf entries) {record : ρ} (set : field.isSet record = true)
    : Fails (fields nameOf known (entries.map NamedEntry.pair) record) := by
  induction entries generalizing record with
  | nil => cases again
  | cons entry rest ih =>
      refine fields_cons_ensures separate member entry record ?_ ?_ (named entry List.mem_cons_self)
      · intro apart later kept
        have again : field.name ∈ namesOf rest :=
          (List.mem_cons.mp again).resolve_left (Ne.symm apart)
        exact ih (fun other member => named other (List.mem_cons_of_mem _ member)) again
          (kept.trans set)
      · intro _ later _ unset
        rw [set] at unset
        cases unset

/-- A field that occurs twice is refused, whatever stands between. -/
theorem fields_fails_of_repeated
    (named : ∀ entry ∈ entries, nameOf entry.key = pure (some entry.name))
    (twice : 2 ≤ (namesOf entries).count field.name) (record : ρ)
    : Fails (fields nameOf known (entries.map NamedEntry.pair) record) := by
  induction entries generalizing record with
  | nil => simp [namesOf] at twice
  | cons entry rest ih =>
      have rests (other : NamedEntry κ ν) (member : other ∈ rest) :=
        named other (List.mem_cons_of_mem _ member)
      refine fields_cons_ensures separate member entry record ?_ ?_ (named entry List.mem_cons_self)
      · intro apart later _
        refine ih rests ?_ later
        simpa [namesOf, List.count_cons, apart] using twice
      · intro same later set _
        have again : field.name ∈ namesOf rest := by
          rw [← List.count_pos_iff]
          simp only [namesOf, List.map_cons, List.count_cons, same, beq_self_eq_true, if_true]
            at twice
          exact Nat.lt_of_succ_lt_succ twice
        exact fields_fails_of_set separate member rests again set

/-- The value of a field that cannot be read stops the reading, wherever it stands. -/
theorem fields_fails_of_refused
    (named : ∀ entry ∈ entries, nameOf entry.key = pure (some entry.name)) {entry : NamedEntry κ ν}
    (inside : entry ∈ entries) (same : entry.name = field.name)
    (refuses : ∀ record, Fails (field.read entry.value record)) (record : ρ)
    : Fails (fields nameOf known (entries.map NamedEntry.pair) record) := by
  induction entries generalizing record with
  | nil => cases inside
  | cons head rest ih =>
      simp only [List.map_cons, NamedEntry.pair, fields, named head List.mem_cons_self, pure_bind]
      rcases List.mem_cons.mp inside with rfl | inside
      · rw [same, find?_known separate.distinct member]
        dsimp only
        split
        · exact ensures_refuse _
        · exact (refuses record).bind
      · -- What stands before the entry fails by itself or leads on to it.
        have later := ih (fun other member => named other (List.mem_cons_of_mem _ member)) inside
        cases known.find? (some ·.name = some head.name) with
        | none => exact later record
        | some other =>
            dsimp only
            split
            · exact ensures_refuse _
            · exact ensures_bind fun after => later after

end Separate

end Fields

/-! ## How the whole is read -/

section Parts

variable {κ ν ρ α : Type} {nameOf : κ → Decode (Option String)} {Holds : ν → Node → Prop}
  {known : List (Field ν ρ)} {nothing : ρ} {complete : ρ → Except Mismatch α}
  {entries : List (NamedEntry κ ν)} {written : List (NamedEntry Node Node)}

/-- An entry as it is read, for one that is written: the key says the name, and the value holds what
the node does. -/
structure Carries (nameOf : κ → Decode (Option String)) (Holds : ν → Node → Prop)
    (entry : NamedEntry κ ν) (written : NamedEntry Node Node) : Prop where
  named : nameOf entry.key = pure (some entry.name)
  name_eq : entry.name = written.name
  holds : Holds entry.value written.value

/-- A field reads what a form writes, and keeps it with what was read before. -/
structure Reads (Holds : ν → Node → Prop) (among : List String → ρ) (field : Field ν ρ)
    (form : FieldForm) : Prop where
  name_eq : field.name = form.name
  unset : ∀ done, form.name ∉ done → field.isSet (among done) = false
  reads
    : ∀ done,
        form.name ∉ done
        → ∀ value node,
            Holds value node
            → form.Writes node
            → field.read value (among done) = pure (among (form.name :: done))

/-- A field refuses what its rule refuses, and is set in whatever is complete if the rule demands
it. -/
structure Obeys (Holds : ν → Node → Prop) (complete : ρ → Except Mismatch α) (field : Field ν ρ)
    (rule : FieldRule) : Prop where
  name_eq : field.name = rule.name
  refuses
    : ∀ value node record,
        Holds value node → rule.Refuses node → Fails (field.read value record)
  required
    : rule.required → ∀ record value, complete record = .ok value → field.isSet record = true

theorem exists_of_forall₂ {κ ν : Type} {Fits : κ → ν → Prop} {fields : List κ} {forms : List ν}
    (each : List.Forall₂ Fits fields forms) {field : κ} (member : field ∈ fields)
    : ∃ form ∈ forms, Fits field form := by
  induction each with
  | nil => cases member
  | cons first _ ih =>
      rcases List.mem_cons.mp member with rfl | member
      · exact ⟨_, List.mem_cons_self, first⟩
      · obtain ⟨form, inside, fits⟩ := ih member
        exact ⟨form, List.mem_cons_of_mem _ inside, fits⟩

theorem Carries.namesOf_eq (carried : List.Forall₂ (Carries nameOf Holds) entries written)
    : namesOf entries = namesOf written := by
  induction carried with
  | nil => rfl
  | cons first _ ih => exact congr (congrArg List.cons first.name_eq) ih

theorem Carries.named_of_mem (carried : List.Forall₂ (Carries nameOf Holds) entries written)
    : ∀ entry ∈ entries, nameOf entry.key = pure (some entry.name) := by
  intro entry member
  obtain ⟨wrote, -, carries⟩ := exists_of_forall₂ carried member
  exact carries.named

/-- The whole is read from any entries that write its fields: what was read so far depends on the
names read so far, and once all names that may not be left out were read the whole is complete. -/
theorem parts_eq_pure {among : List String → ρ} {forms : List FieldForm} {value : α}
    (reads : List.Forall₂ (Reads Holds among) known forms)
    (skips : ∀ name, name ∉ forms.map (·.name) → ∀ done, among (name :: done) = among done)
    (completes
      : ∀ names,
          (∀ form ∈ forms, form.name ∉ names → form.mayOmit) → complete (among names) = .ok value)
    (carried : List.Forall₂ (Carries nameOf Holds) entries written)
    (write : WriteFields forms written)
    : (do
        let parts ← fields nameOf known (entries.map NamedEntry.pair) (among [])
        ofCheck (complete parts))
      = pure value := by
  have names := Carries.namesOf_eq carried
  have read : fields nameOf known (entries.map NamedEntry.pair) (among [])
      = pure (among ((namesOf entries).reverse ++ [])) := by
    refine fields_eq_pure (Carries.named_of_mem carried) ?_ ?_ (names ▸ write.distinct) (by simp)
    · intro entry member field inside same done fresh
      obtain ⟨wrote, within, carries⟩ := exists_of_forall₂ carried member
      obtain ⟨form, described, fits⟩ := exists_of_forall₂ reads inside
      have named : entry.name = form.name := same.symm.trans fits.name_eq
      have writes := write.written form described wrote within (carries.name_eq.symm.trans named)
      rw [named] at fresh ⊢
      exact ⟨fits.unset done fresh, fits.reads done fresh _ _ carries.holds writes⟩
    · intro said unknown done
      refine skips said ?_ done
      intro listed
      obtain ⟨form, described, rfl⟩ := List.mem_map.mp listed
      obtain ⟨field, inside, fits⟩ := exists_of_forall₂ reads.flip described
      exact unknown field inside fits.name_eq
  have whole := completes ((namesOf entries).reverse ++ []) fun form described absent =>
    write.omitted form described (by simpa [← names] using absent)
  rw [read, pure_bind, whole]
  rfl

/-- The whole is not read from entries that break a rule. -/
theorem parts_fail {rules : List FieldRule} (separate : Separate known)
    (obeys : List.Forall₂ (Obeys Holds complete) known rules)
    (start : ∀ field ∈ known, field.isSet nothing = false)
    (carried : List.Forall₂ (Carries nameOf Holds) entries written)
    (breaks : BreakFields rules written)
    : Fails (do
        let parts ← fields nameOf known (entries.map NamedEntry.pair) nothing
        ofCheck (complete parts)) := by
  have names := Carries.namesOf_eq carried
  have named := Carries.named_of_mem carried
  cases breaks with
  | missing rule member required absent =>
      obtain ⟨field, inside, obey⟩ := exists_of_forall₂ obeys.flip member
      rw [← obey.name_eq, ← names] at absent
      refine (fields_ensures_absent separate inside named absent nothing).bind ?_
      intro parts unset
      rw [start field inside] at unset
      cases completed : complete parts with
      | error cause => exact ensures_refuse _
      | ok value =>
          have set := obey.required required parts value completed
          rw [unset] at set
          cases set
  | repeated rule member twice =>
      obtain ⟨field, inside, obey⟩ := exists_of_forall₂ obeys.flip member
      rw [← obey.name_eq, ← names] at twice
      exact (fields_fails_of_repeated separate inside named twice nothing).bind
  | refused rule member wrote within same refuses =>
      obtain ⟨field, inside, obey⟩ := exists_of_forall₂ obeys.flip member
      obtain ⟨entry, read, carries⟩ := exists_of_forall₂ carried.flip within
      refine (fields_fails_of_refused separate inside named read ?_ ?_ nothing).bind
      · exact carries.name_eq.trans (same.trans obey.name_eq.symm)
      · exact fun record => obey.refuses _ _ record carries.holds refuses

end Parts

/-! ## Fields that are kept apart -/

/-- A field whose value is kept apart from those of the other fields. -/
def Field.keeping {ν ρ α : Type} (name : String) (get : ρ → Option α) (put : ρ → α → ρ)
    (read : ν → Decode α)
    : Field ν ρ where
  name
  isSet record := (get record).isSome
  read value record := do return put record (← read value)

/-- The value of a field, if the field is among those that were read. -/
def amongRead {α : Type} (done : List String) (name : String) (value : α) : Option α :=
  if name ∈ done then some value else none

@[simp]
theorem amongRead_cons {α : Type} (name : String) (done : List String) (other : String) (value : α)
    : amongRead (name :: done) other value
      = if other = name then some value else amongRead done other value := by
  by_cases same : other = name <;> simp [amongRead, same]

theorem getD_amongRead {α : Type} {done : List String} {name : String} {value other : α}
    (omitted : name ∉ done → value = other)
    : (amongRead done name value).getD other = value := by
  by_cases read : name ∈ done
  · simp [amongRead, read]
  · simp [amongRead, read, omitted read]

/-- A field that must not be left out is found among those that were read. -/
theorem required_amongRead {α : Type} {done : List String} {name : String} {value : α}
    (omitted : name ∉ done → False)
    : required name (amongRead done name value) = .ok value := by
  rw [amongRead, if_pos (not_not.mp omitted)]
  rfl

/-- Reading on behind a value that must not be missing. -/
theorem isSome_of_required {α β : Type} {name : String} {value : Option α}
    {next : α → Except Mismatch β} {result : β}
    (completed : required name value >>= next = .ok result)
    : value.isSome = true ∧ ∃ found, next found = .ok result := by
  cases value with
  | none => cases completed
  | some found => exact ⟨rfl, found, completed⟩

section Keeping

variable {ν ρ α β : Type} {Holds : ν → Node → Prop} {name : String} {get : ρ → Option α}
  {put : ρ → α → ρ} {read : ν → Decode α}

theorem keeping_reads {among : List String → ρ} {value : α} {Writes : Node → Prop} {mayOmit : Prop}
    (kept : ∀ done, get (among done) = amongRead done name value)
    (puts : ∀ done, put (among done) value = among (name :: done))
    (reads : ∀ held node, Holds held node → Writes node → read held = pure value)
    : Reads Holds among (.keeping name get put read) ⟨name, Writes, mayOmit⟩ where
  name_eq := rfl
  unset done fresh := by simp [Field.keeping, kept, amongRead, fresh]
  reads done fresh held node holds writes := by
    simp only [Field.keeping, reads held node holds writes, pure_bind, puts]

theorem keeping_obeys {complete : ρ → Except Mismatch β} {demanded : Prop} {Refuses : Node → Prop}
    (refuses : ∀ held node, Holds held node → Refuses node → Fails (read held))
    (required
      : demanded → ∀ record value, complete record = .ok value → (get record).isSome = true)
    : Obeys Holds complete (.keeping name get put read) ⟨name, demanded, Refuses⟩ where
  name_eq := rfl
  refuses held node _ holds refused := (refuses held node holds refused).bind
  required := required

theorem keeping_sets {other : Field ν ρ}
    (sets
      : ∀ record value,
          other.isSet (put record value) = (decide (name = other.name) || other.isSet record))
    (held : ν) (record : ρ)
    : Ensures ((Field.keeping name get put read).read held record) fun later =>
        other.isSet later = (decide (name = other.name) || other.isSet record) :=
  ensures_bind fun value => ensures_pure (sets record value)

end Keeping

end Decode

end ModeSwitch.Yaml
