import ModeSwitch.Listing

/-! What a line of the list tells.

The name of an entry ends in a character that no other kind of entry ends in, so the title and the
state can be told from it whatever the title imitates.  In a line the key stands before the first
space, and the column that it fills is known from the key, so the name can be told from the line.
-/

namespace ModeSwitch

namespace Text

/-- A padded text fills the width, or takes the room that it needs. -/
theorem length_padRight (width : Nat) (text : String)
    : (padRight width text).length = max width text.length := by
  simp only [padRight, String.length_append, String.length_ofList, List.length_replicate,
    String.length_toList]
  omega

/-- The spaces behind a text that holds none are the first ones. -/
theorem takeWhile_padRight_append {text : String} (solid : ' ' ∉ text.toList) (width : Nat)
    (rest : String)
    : (padRight width text ++ " " ++ rest).toList.takeWhile (· ≠ ' ') = text.toList := by
  have inside : ∀ c ∈ text.toList, decide (c ≠ ' ') = true := by
    intro c member
    simpa using fun same : c = ' ' => solid (same ▸ member)
  simp only [padRight, String.toList_append, String.toList_ofList, List.append_assoc]
  rw [List.takeWhile_append_of_pos inside]
  -- Whether or not there is padding, the next character is a space.
  cases width - text.toList.length <;> simp [List.replicate_succ]

end Text

namespace Entry

/-- What stands behind the title in the name of an entry. -/
def marker (entry : Entry) : String :=
  if entry.available then
    match entry.checked with
    | .enabled => " ●"
    | .disabled => " ○"
  else " (unsupported)"

theorem displayName_eq (entry : Entry) : entry.displayName = entry.title ++ entry.marker := by
  unfold displayName marker
  cases entry.available <;> cases entry.checked <;> rfl

/-- The last character of the name tells what stands behind the title. -/
theorem getLast?_displayName (entry : Entry)
    : entry.displayName.toList.getLast?
      = some (if entry.available then if entry.checked = .enabled then '●' else '○' else ')') := by
  rw [displayName_eq]
  unfold marker
  cases entry.available <;> cases entry.checked <;> simp [List.getLast?_append]

variable {first second : Entry}

/-- Whether an entry is checked makes a difference to its marker only if it is available. -/
theorem marker_congr (available : first.available = second.available)
    (checked : first.available = true → first.checked = second.checked)
    : first.marker = second.marker := by
  unfold marker
  rw [← available]
  cases present : first.available with
  | false => rfl
  | true => rw [checked present]

/-- The name tells the title, whether the attribute is present, and the state if it is. -/
theorem displayName_eq_iff
    : first.displayName = second.displayName
      ↔ first.title = second.title
        ∧ first.available = second.available
        ∧ (first.available = true → first.checked = second.checked) := by
  constructor
  · intro same
    have last := congrArg (·.toList.getLast?) same
    simp only [getLast?_displayName, Option.some.injEq] at last
    have told : first.available = second.available
        ∧ (first.available = true → first.checked = second.checked) := by
      revert last
      cases first.available <;> cases second.available <;> cases first.checked <;>
        cases second.checked <;> decide
    -- What stands behind the titles is the same, so the titles are.
    rw [displayName_eq, displayName_eq, marker_congr told.1 told.2] at same
    exact ⟨String.append_left_inj _ |>.mp same, told⟩
  · rintro ⟨title, available, checked⟩
    rw [displayName_eq, displayName_eq, title, marker_congr available checked]

/-- Behind the column of the key and a space the line goes on with the name. -/
theorem drop_line (entry : Entry)
    : entry.line.toList.drop (max keyWidth entry.key.length + 1) = entry.displayName.toList := by
  have column : (Text.padRight keyWidth entry.key ++ " ").toList.length
      = max keyWidth entry.key.length + 1 := by
    rw [String.length_toList, String.length_append, Text.length_padRight]
    rfl
  rw [line, String.toList_append, ← column, List.drop_left]

/-- A key without a space is what stands before the first space of the line. -/
theorem takeWhile_line {entry : Entry} (solid : ' ' ∉ entry.key.toList)
    : entry.line.toList.takeWhile (· ≠ ' ') = entry.key.toList :=
  Text.takeWhile_padRight_append solid keyWidth entry.displayName

/-- The name of an entry tells its title and, as far as the list shows it, its state.  A line tells
the key, if this holds no space, and the name: the key stands before the first space, and the name
behind the column of twenty characters or the longer key and one more space. -/
theorem lines_tell_entries
    : (∀ first second : Entry,
        first.displayName = second.displayName
        ↔ first.title = second.title
          ∧ first.available = second.available
          ∧ (first.available = true → first.checked = second.checked))
      ∧ (∀ first second : Entry,
          ' ' ∉ first.key.toList
          → ' ' ∉ second.key.toList
          → (first.line = second.line
            ↔ first.key = second.key ∧ first.displayName = second.displayName))
      ∧ (∀ entry : Entry,
          ' ' ∉ entry.key.toList
          → entry.line.toList.takeWhile (· ≠ ' ') = entry.key.toList)
      ∧ ∀ entry : Entry,
          entry.line.toList.drop (max 20 entry.key.length + 1) = entry.displayName.toList := by
  refine ⟨fun first second => displayName_eq_iff, fun first second solid solid' => ?_,
    fun entry solid => takeWhile_line solid, drop_line⟩
  constructor
  · intro same
    have key : first.key = second.key := by
      rw [← String.toList_inj, ← takeWhile_line solid, ← takeWhile_line solid', same]
    refine ⟨key, ?_⟩
    rw [← String.toList_inj, ← drop_line, ← drop_line, same, key]
  · rintro ⟨key, name⟩
    rw [line, line, key, name]

/-- Two lamps with one key, longer than its column, are listed in two lines, although the title of the
one that is on imitates the name of the absent one. -/
theorem lamps_are_told_apart
    : let absent : Entry := ⟨"lampe-über-der-werkbank", "Lamp ○", false, .disabled⟩
      let imitating : Entry := ⟨absent.key, absent.displayName, true, .enabled⟩
      ' ' ∉ absent.key.toList
      ∧ absent.line ≠ imitating.line
      ∧ absent.line.toList.takeWhile (· ≠ ' ') = absent.key.toList
      ∧ imitating.line.toList.drop 24 = imitating.displayName.toList := by
  intro absent imitating
  obtain ⟨names, lines, keys, behind⟩ := lines_tell_entries
  have solid : ' ' ∉ absent.key.toList := by decide
  have column : max 20 imitating.key.length + 1 = 24 := by decide
  refine ⟨solid, fun same => ?_, keys absent solid, column ▸ behind imitating⟩
  have name := ((lines absent imitating solid solid).mp same).2
  cases ((names absent imitating).mp name).2.1

end Entry

end ModeSwitch
