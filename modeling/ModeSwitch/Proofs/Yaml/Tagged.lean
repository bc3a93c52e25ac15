import ModeSwitch.Proofs.Yaml.Contents

/-! Tagged records as they are written and read.

The entries of a tagged record are kept as contents until its type is known, wherever the type stands
among them.  They are told apart in one pass, and the fields of the type are then read from what was
kept.
-/

namespace ModeSwitch.Yaml.Decode

/-! ## Types -/

section Types

variable {τ : Type} (kind : TaggedKind τ)

def TaggedKind.form (type : τ) : FieldForm where
  name := kind.field
  Writes node := ∃ name, node.Spells name ∧ kind.types.lookup name = some type
  mayOmit := False

def TaggedKind.rule : FieldRule where
  name := kind.field
  required := True
  Refuses node :=
    node.IsCollection ∨ ∃ name, node.Shows name ∧ kind.types.lookup name = none

def TaggedKind.others (entries : List (NamedEntry Node Node)) : List (NamedEntry Node Node) :=
  entries.filter (·.name ≠ kind.field)

/-- A node that is no tagged record of any type: the type is not told as it should be, or the fields
of the type that is told break a rule, or the node is a scalar. -/
inductive TaggedKind.Breaks (rules : τ → List FieldRule) : Node → Prop where
  | type (start : Position) (properties : Properties) {entries : List (NamedEntry Node Node)}
    (spelled : ∀ entry ∈ entries, entry.key.Spells entry.name)
    (breaks : BreakFields [kind.rule] entries)
    : Breaks rules (.mapping start properties (entries.map NamedEntry.pair))
  | fields (start : Position) (properties : Properties) {entries : List (NamedEntry Node Node)}
    (spelled : ∀ entry ∈ entries, entry.key.Spells entry.name) {type : τ}
    (told : ∃ entry ∈ entries, entry.name = kind.field ∧ (kind.form type).Writes entry.value)
    (breaks : BreakFields (rules type) entries)
    : Breaks rules (.mapping start properties (entries.map NamedEntry.pair))
  | scalar {node : Node} (said : node.SaysSomething) : Breaks rules node

/-- What comes of the entries of a tagged record: the type that was told before or is told by the
one entry that may tell it, and contents that keep the other entries in their order. -/
structure Sorts (known : List String) (told : Option τ) (entries : List (NamedEntry Node Node))
    (found : Option τ × List (Content × Content)) : Prop where
  counted : (namesOf entries).count kind.field + told.toList.length = found.1.toList.length
  kept : ∀ type, told = some type → found.1 = some type
  named
    : ∀ entry ∈ entries,
        entry.name = kind.field
        → ¬ kind.rule.Refuses entry.value
          ∧ ∀ type, (kind.form type).Writes entry.value → found.1 = some type
  carried
    : ∃ held,
        found.2 = held.map NamedEntry.pair
        ∧ List.Forall₂ (Carries (contentField known) Content.Keeps) held
          (kind.others entries)

end Types

section Sorts

variable {τ : Type} {kind : TaggedKind τ} {known : List String} {told : Option τ}
  {entry : NamedEntry Node Node} {entries : List (NamedEntry Node Node)}
  {found : Option τ × List (Content × Content)}

theorem Sorts.nil (type : Option τ) : Sorts kind known type [] (type, []) :=
  ⟨by simp [namesOf], fun _ same => same, by simp, [], rfl, .nil⟩

theorem Sorts.tells {type : τ} (same : entry.name = kind.field)
    (accepted : ¬ kind.rule.Refuses entry.value)
    (names : ∀ other, (kind.form other).Writes entry.value → other = type)
    (sorts : Sorts kind known (some type) entries found)
    : Sorts kind known none (entry :: entries) found where
  counted := by
    have counted := sorts.counted
    simp only [Option.toList_some, List.length_singleton] at counted
    simpa [namesOf, List.count_cons, same] using counted
  kept := by simp
  named := by
    have told := sorts.kept type rfl
    intro other member within
    rcases List.mem_cons.mp member with rfl | member
    · exact ⟨accepted, fun written writes => by rw [told, names written writes]⟩
    · exact sorts.named other member within
  carried := by simpa [TaggedKind.others, same] using sorts.carried

theorem Sorts.keeps {content : Content} (apart : entry.name ≠ kind.field)
    (keeps : content.Keeps entry.value) (sorts : Sorts kind known told entries found)
    : Sorts kind known told (entry :: entries)
        (found.1, (.scalar (.text entry.name), content) :: found.2) where
  counted := by simpa [namesOf, List.count_cons, apart] using sorts.counted
  kept := sorts.kept
  named := by
    intro other member within
    rcases List.mem_cons.mp member with rfl | member
    · exact (apart within).elim
    · exact sorts.named other member within
  carried := by
    obtain ⟨held, same, carried⟩ := sorts.carried
    have others : kind.others (entry :: entries) = entry :: kind.others entries := by
      simp [TaggedKind.others, apart]
    refine ⟨⟨entry.name, .scalar (.text entry.name), content⟩ :: held, ?_, ?_⟩
    · simp [same, NamedEntry.pair]
    · rw [others]
      exact .cons ⟨rfl, rfl, keeps⟩ carried

end Sorts

/-! ## Tagged records -/

section Tagged

variable {τ : Type} (around : Surroundings) {kind : TaggedKind τ} (depth : Nat) (path : Path)
  {node : Node} {entries : List (NamedEntry Node Node)}

theorem typeName_of_writes {type : τ} (writes : (kind.form type).Writes node)
    : typeName around kind path node = pure type := by
  obtain ⟨name, spells, named⟩ := writes
  cases spells with
  | scalar start anchor style means =>
      unfold typeName
      simp only [follow, pure_bind, named]
      rfl

theorem typeName_fails (refuses : kind.rule.Refuses node)
    : Fails (typeName around kind path node) := by
  unfold typeName
  rcases refuses with collection | ⟨name, named, unknown⟩
  · rw [follow_of_isCollection around collection, pure_bind]
    refine Ensures.located _ _ ?_
    cases collection <;> exact fails_unexpected _ _
  · cases named with
    | scalar start anchor style =>
        simp only [follow, pure_bind, unknown]
        exact Ensures.located _ _ (ensures_refuse _)

/-- A type that is read is not one that is refused, and it is the only one that the node may write. -/
theorem typeName_ensures (kind : TaggedKind τ) (node : Node)
    : Ensures (typeName around kind path node) fun type =>
        ¬ kind.rule.Refuses node ∧ ∀ other, (kind.form other).Writes node → other = type := by
  intro count type later ended
  refine ⟨fun refuses => typeName_fails around path refuses count type later ended, ?_⟩
  intro other writes
  rw [typeName_of_writes around path writes] at ended
  cases ended
  rfl

theorem taggedKey_of_spells (kind : TaggedKind τ) {text : String} (spells : node.Spells text)
    : taggedKey around kind depth path node = pure (.scalar (.text text)) :=
  contentStep_of_spells around _ _ path spells

/-- The entries of a tagged record are told apart as they come, by induction on them. -/
theorem taggedEntries_ensures (kind : TaggedKind τ) (known : List String)
    (spelled : ∀ entry ∈ entries, entry.key.Spells entry.name) (told : Option τ)
    : Ensures (taggedEntries around kind depth path (entries.map NamedEntry.pair) told)
        (Sorts kind known told entries) := by
  induction entries generalizing told with
  | nil => exact ensures_pure (.nil told)
  | cons entry rest ih =>
      have later := ih fun other member => spelled other (List.mem_cons_of_mem _ member)
      have key := taggedKey_of_spells around depth path kind
        (spelled entry List.mem_cons_self)
      simp only [List.map_cons, NamedEntry.pair, taggedEntries, key, pure_bind]
      by_cases same : entry.name = kind.field
      · rw [if_pos same]
        cases told with
        | some type => exact (Fails.bind (ensures_refuse _)).ensures
        | none =>
            refine (typeName_ensures around _ kind entry.value).bind ?_
            rintro type ⟨accepted, names⟩
            exact (later (some type)).imp fun found sorts => sorts.tells same accepted names
      · rw [if_neg same]
        refine (content_ensures around depth _ entry.value).bind fun content keeps => ?_
        exact (later told).bind fun found sorts => ensures_pure (sorts.keeps same keeps)

/-- Entries that tell the type once, and of which each has a content, are read to the end. -/
theorem taggedEntries_returns (spelled : ∀ entry ∈ entries, entry.key.Spells entry.name)
    (distinct : (namesOf entries).Nodup)
    (types
      : ∀ entry ∈ entries,
          entry.name = kind.field → ∃ type, (kind.form type).Writes entry.value)
    (contents
      : ∀ entry ∈ entries,
          entry.name ≠ kind.field
          → ∃ content, ∀ path, Decode.content around depth path entry.value = pure content)
    (told : Option τ) (untold : told ≠ none → kind.field ∉ namesOf entries)
    : ∃ found,
        taggedEntries around kind depth path (entries.map NamedEntry.pair) told = pure found := by
  induction entries generalizing told with
  | nil => exact ⟨(told, []), rfl⟩
  | cons entry rest ih =>
      obtain ⟨fresh, distinct⟩ := List.nodup_cons.mp distinct
      have later := ih (fun other member => spelled other (List.mem_cons_of_mem _ member)) distinct
        (fun other member => types other (List.mem_cons_of_mem _ member))
        (fun other member => contents other (List.mem_cons_of_mem _ member))
      have key := taggedKey_of_spells around depth path kind
        (spelled entry List.mem_cons_self)
      simp only [List.map_cons, NamedEntry.pair, taggedEntries, key, pure_bind]
      by_cases same : entry.name = kind.field
      · cases told with
        | some type => exact (untold (by simp) (by simp [namesOf, same])).elim
        | none =>
            obtain ⟨type, writes⟩ := types entry List.mem_cons_self same
            obtain ⟨found, read⟩ := later (some type) fun _ => same ▸ fresh
            refine ⟨found, ?_⟩
            rw [if_pos same, typeName_of_writes around _ writes, pure_bind, read]
            rfl
      · obtain ⟨content, kept⟩ := contents entry List.mem_cons_self same
        obtain ⟨found, read⟩ := later told fun some within =>
          untold some (List.mem_cons_of_mem _ within)
        refine ⟨(found.1, (.scalar (.text entry.name), content) :: found.2), ?_⟩
        rw [if_neg same, kept, pure_bind, read]
        rfl

/-- Only the entry that tells the type is taken out. -/
theorem count_namesOf_others {name : String} (apart : name ≠ kind.field)
    : (namesOf (kind.others entries)).count name = (namesOf entries).count name := by
  induction entries with
  | nil => rfl
  | cons entry rest ih =>
      by_cases same : entry.name = kind.field
      · have unlike : entry.name ≠ name := fun named => apart (named.symm.trans same)
        simpa [TaggedKind.others, namesOf, List.count_cons, same, Ne.symm apart] using ih
      · simpa [TaggedKind.others, namesOf, List.count_cons, same] using ih

theorem mem_namesOf_others {name : String} (apart : name ≠ kind.field)
    : name ∈ namesOf (kind.others entries) ↔ name ∈ namesOf entries := by
  rw [← List.count_pos_iff, ← List.count_pos_iff, count_namesOf_others apart]

theorem writeFields_others {type : τ} {forms : List FieldForm}
    (fresh : kind.field ∉ forms.map (·.name)) (write : WriteFields (kind.form type :: forms) entries)
    : WriteFields forms (kind.others entries) where
  spelled entry member := write.spelled entry (List.mem_of_mem_filter member)
  distinct := write.distinct.sublist (List.filter_sublist.map _)
  written form described entry member :=
    write.written form (List.mem_cons_of_mem _ described) entry (List.mem_of_mem_filter member)
  omitted form described absent := by
    have apart : form.name ≠ kind.field := fun same =>
      fresh (List.mem_map.mpr ⟨form, described, same⟩)
    exact write.omitted form (List.mem_cons_of_mem _ described)
      (mt (mem_namesOf_others apart).mpr absent)
  additional entry member unknown := by
    obtain ⟨inside, apart⟩ := List.mem_filter.mp member
    refine write.additional entry inside ?_
    rw [List.map_cons, List.mem_cons, not_or]
    exact ⟨by simpa [TaggedKind.form] using apart, unknown⟩

/-- Rules that are broken beside the type are broken without it. -/
theorem breakFields_others {rules : List FieldRule}
    (fresh : ∀ rule ∈ rules, rule.name ≠ kind.field) (breaks : BreakFields rules entries)
    : BreakFields rules (kind.others entries) := by
  cases breaks with
  | missing rule member required absent =>
      exact .missing rule member required (mt (mem_namesOf_others (fresh rule member)).mp absent)
  | repeated rule member twice =>
      exact .repeated rule member (by rwa [count_namesOf_others (fresh rule member)])
  | refused rule member entry inside same refuses =>
      have apart : entry.name ≠ kind.field := same ▸ fresh rule member
      exact .refused rule member entry (List.mem_filter.mpr ⟨inside, by simpa using apart⟩) same
        refuses

/-- A tagged record that is written as its type demands is read as that type, with contents that
keep the fields as they are written. -/
theorem tagged_eq_pure {type : τ} {forms : List FieldForm}
    (fresh : kind.field ∉ forms.map (·.name))
    (contents
      : ∀ form ∈ forms,
          ∀ node,
            form.Writes node
            → ∃ content, ∀ path, Decode.content around depth path node = pure content)
    (known : List String) (writes : node.WritesRecord (kind.form type :: forms))
    : ∃ held written,
        WriteFields forms written
        ∧ List.Forall₂ (Carries (contentField known) Content.Keeps) held written
        ∧ tagged around kind depth path node = pure ⟨type, .map (held.map NamedEntry.pair)⟩ := by
  cases writes with
  | mapping start anchor write =>
      rename_i entries
      have types : ∀ entry ∈ entries,
          entry.name = kind.field → ∃ type, (kind.form type).Writes entry.value :=
        fun entry member same => ⟨type, write.written _ List.mem_cons_self entry member same⟩
      have values : ∀ entry ∈ entries,
          entry.name ≠ kind.field
          → ∃ content, ∀ path, Decode.content around depth path entry.value = pure content := by
        intro entry member apart
        by_cases listed : entry.name ∈ forms.map (·.name)
        · obtain ⟨form, described, same⟩ := List.mem_map.mp listed
          exact contents form described _
            (write.written form (List.mem_cons_of_mem _ described) entry member same.symm)
        · obtain ⟨text, spells⟩ := write.additional entry member (by
            rw [List.map_cons, List.mem_cons, not_or]
            exact ⟨apart, listed⟩)
          exact ⟨_, fun path => content_of_spells around depth path spells⟩
      -- Something is read, and whatever is read sorts the entries; so this is what is read.
      obtain ⟨found, read⟩ := taggedEntries_returns around depth path write.spelled write.distinct
        types values none (by simp)
      have sorts := taggedEntries_ensures around depth path kind known write.spelled none
      rw [read] at sorts
      have sorts := sorts.of_pure
      obtain ⟨held, same, carried⟩ := sorts.carried
      have told : found.1 = some type := by
        by_cases named : kind.field ∈ namesOf entries
        · obtain ⟨entry, member, same⟩ := List.mem_map.mp named
          exact (sorts.named entry member same).2 type
            (write.written _ List.mem_cons_self entry member same)
        · exact (write.omitted _ List.mem_cons_self named).elim
      refine ⟨held, kind.others entries, writeFields_others fresh write, carried, ?_⟩
      obtain ⟨_, _⟩ := found
      cases told
      cases same
      unfold tagged
      simp only [follow, pure_bind, read]
      rfl

/-- A tagged record is sorted into its type and its other entries. -/
theorem tagged_mapping_ensures (known : List String) (start : Position) (properties : Properties)
    (spelled : ∀ entry ∈ entries, entry.key.Spells entry.name)
    : Ensures (tagged around kind depth path (.mapping start properties (entries.map NamedEntry.pair)))
        fun found =>
          ∃ contents,
            found.content = .map contents
            ∧ Sorts kind known none entries (some found.type, contents) := by
  unfold tagged
  simp only [follow, pure_bind]
  refine Ensures.located _ _ ?_
  split
  · exact ensures_refuse _
  · refine (taggedEntries_ensures around depth path kind known spelled none).bind ?_
    rintro ⟨type, contents⟩ sorts
    cases type with
    | none => exact ensures_refuse _
    | some type => exact ensures_pure ⟨contents, rfl, sorts⟩

/-- Whatever is read of a node that breaks the rules of a tagged record, the fields of its type still
break theirs. -/
theorem tagged_ensures {rules : τ → List FieldRule}
    (fresh : ∀ type, ∀ rule ∈ rules type, rule.name ≠ kind.field) (known : List String)
    (breaks : kind.Breaks rules node)
    : Ensures (tagged around kind depth path node) fun found =>
        ∃ held written,
          found.content = .map (held.map NamedEntry.pair)
          ∧ List.Forall₂ (Carries (contentField known) Content.Keeps) held written
          ∧ BreakFields (rules found.type) written := by
  cases breaks with
  | type start properties spelled breaks =>
      refine (tagged_mapping_ensures around depth path known start properties spelled).imp ?_
      rintro ⟨type, content⟩ ⟨contents, -, sorts⟩
      -- The type was told exactly once, by an entry that is accepted.
      have once : (namesOf _).count kind.field = 1 := sorts.counted
      cases breaks with
      | missing rule member _ absent =>
          obtain rfl := List.mem_singleton.mp member
          have never : (namesOf _).count kind.field = 0 := List.count_eq_zero.mpr absent
          rw [never] at once
          cases once
      | repeated rule member twice =>
          obtain rfl := List.mem_singleton.mp member
          rw [TaggedKind.rule, once] at twice
          omega
      | refused rule member entry inside same refuses =>
          obtain rfl := List.mem_singleton.mp member
          exact ((sorts.named entry inside same).1 refuses).elim
  | fields start properties spelled told breaks =>
      refine (tagged_mapping_ensures around depth path known start properties spelled).imp ?_
      rintro ⟨type, content⟩ ⟨contents, rfl, sorts⟩
      obtain ⟨held, rfl, carried⟩ := sorts.carried
      obtain ⟨entry, member, same, writes⟩ := told
      obtain rfl := Option.some.inj ((sorts.named entry member same).2 _ writes)
      exact ⟨held, _, rfl, carried, breakFields_others (fresh type) breaks⟩
  | scalar said =>
      cases said with
      | scalar start anchor style filled =>
          unfold tagged
          simp only [follow, pure_bind]
          exact (fails_unexpected _ _).ensures.located _ _

end Tagged

end ModeSwitch.Yaml.Decode
