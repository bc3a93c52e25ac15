import Mathlib.Data.List.DropRight
import ModeSwitch.Text.Blank

/-! Values and the line endings behind them.

A text is a value with a run of line endings behind it, possibly none.  If the value is not to end in
a line ending itself, there is just one way to see it so, and trimming finds it.
-/

namespace ModeSwitch.Text

def IsLineEnds (text : String) : Prop :=
  ∀ c ∈ text.toList, c = '\n' ∨ c = '\r'

def EndsInLineEnd (text : String) : Prop :=
  text.toList.getLast? = some '\n' ∨ text.toList.getLast? = some '\r'

instance (text : String) : Decidable (IsLineEnds text) :=
  List.decidableBAll (fun c => c = '\n' ∨ c = '\r') text.toList

instance (text : String) : Decidable (EndsInLineEnd text) :=
  inferInstanceAs
    (Decidable (text.toList.getLast? = some '\n' ∨ text.toList.getLast? = some '\r'))

/-- The line is the value with line endings behind it, possibly none. -/
def IsLineOf (value line : String) : Prop :=
  ∃ ends, IsLineEnds ends ∧ line = value ++ ends

variable {text value line ends : String}

theorem isLineEnd_iff {c : Char} : isLineEnd c = true ↔ c = '\n' ∨ c = '\r' := by
  simp [isLineEnd]

/-- The characters that end a line are blank. -/
theorem isBlank_of_isLineEnd {c : Char} (h : isLineEnd c = true) : isBlank c = true := by
  rcases isLineEnd_iff.mp h with rfl | rfl <;> decide

theorem isLineEnds_iff : IsLineEnds text ↔ ∀ c ∈ text.toList, isLineEnd c = true := by
  simp only [IsLineEnds, isLineEnd_iff]

/-- A text ends in a line ending exactly if its last character is one. -/
theorem endsInLineEnd_iff
    : EndsInLineEnd text ↔ ∃ h : text.toList ≠ [], isLineEnd (text.toList.getLast h) = true := by
  unfold EndsInLineEnd
  cases text.toList with
  | nil => simp
  | cons c rest => simp [isLineEnd_iff, List.getLast?_eq_some_getLast]

theorem IsLineEnds.lineFeed : IsLineEnds "\n" := by
  simp [IsLineEnds]

theorem toList_trimLineEnds (text : String)
    : (trimLineEnds text).toList = text.toList.rdropWhile isLineEnd := by
  simp [trimLineEnds, dropTrailing, List.rdropWhile]

/-- What trimming cuts off is a run of line endings. -/
theorem isLineOf_trimLineEnds (text : String) : IsLineOf (trimLineEnds text) text := by
  refine ⟨String.ofList (text.toList.rtakeWhile isLineEnd), isLineEnds_iff.mpr ?_, ?_⟩
  · rw [String.toList_ofList]
    exact fun c member => List.mem_rtakeWhile_imp member
  · rw [← String.toList_inj, String.toList_append, toList_trimLineEnds, String.toList_ofList,
      List.rdropWhile_append_rtakeWhile]

/-- Nothing is cut off exactly if the text does not end in a line ending. -/
theorem trimLineEnds_eq_self_iff : trimLineEnds text = text ↔ ¬ EndsInLineEnd text := by
  rw [← String.toList_inj, toList_trimLineEnds, List.rdropWhile_eq_self_iff, endsInLineEnd_iff]
  simp

/-- Trimming cuts off all the line endings. -/
theorem not_endsInLineEnd_trimLineEnds (text : String) : ¬ EndsInLineEnd (trimLineEnds text) := by
  rw [← trimLineEnds_eq_self_iff, ← String.toList_inj, toList_trimLineEnds, toList_trimLineEnds]
  exact List.rdropWhile_idempotent _ _

/-- Line endings at the end do not matter to trimming. -/
theorem trimLineEnds_append (text : String) (run : IsLineEnds ends)
    : trimLineEnds (text ++ ends) = trimLineEnds text := by
  have run' : ∀ c ∈ ends.toList.reverse, isLineEnd c = true := by
    simpa using isLineEnds_iff.mp run
  rw [← String.toList_inj, toList_trimLineEnds, toList_trimLineEnds, String.toList_append]
  simp only [List.rdropWhile, List.reverse_append, List.dropWhile_append_of_pos run']

theorem IsLineEnds.trimLineEnds_eq_empty (run : IsLineEnds text) : trimLineEnds text = "" := by
  have cut := trimLineEnds_append "" run
  rwa [String.empty_append, trimLineEnds_eq_self_iff.mpr (by decide : ¬ EndsInLineEnd "")] at cut

/-- Nothing is cut off a text that does not end in a line ending but the line feed behind it. -/
theorem trimLineEnds_append_lineFeed (bare : ¬ EndsInLineEnd text)
    : trimLineEnds (text ++ "\n") = text :=
  (trimLineEnds_append text .lineFeed).trans (trimLineEnds_eq_self_iff.mpr bare)

/-- Trimming finds the value that does not end in a line ending. -/
theorem trimLineEnds_eq_iff
    : trimLineEnds line = value ↔ IsLineOf value line ∧ ¬ EndsInLineEnd value := by
  constructor
  · rintro rfl
    exact ⟨isLineOf_trimLineEnds line, not_endsInLineEnd_trimLineEnds line⟩
  · rintro ⟨⟨ends, run, rfl⟩, bare⟩
    rw [trimLineEnds_append value run, trimLineEnds_eq_self_iff.mpr bare]

/-- The lines of a value without a line ending at its end are those that trimming takes to it. -/
theorem isLineOf_iff_trimLineEnds_eq (bare : ¬ EndsInLineEnd value)
    : IsLineOf value line ↔ trimLineEnds line = value := by
  rw [trimLineEnds_eq_iff, and_iff_left bare]

/-- The last character of a text is that of what stands at its end. -/
theorem endsInLineEnd_append_iff {back : String} (front : String) (nonempty : back ≠ "")
    : EndsInLineEnd (front ++ back) ↔ EndsInLineEnd back := by
  obtain ⟨last, ends⟩ : ∃ last, back.toList.getLast? = some last :=
    Option.isSome_iff_exists.mp (by simpa using nonempty)
  simp [EndsInLineEnd, List.getLast?_append, ends]

/-- A value is not a line of itself any more when something is added before, in or behind it, unless
these are line endings behind it. -/
theorem not_isLineOf_of_added {front added back : String} (bare : ¬ EndsInLineEnd (front ++ back))
    (nonempty : added ≠ "") (behind : back = "" → ¬ IsLineEnds added) (run : IsLineEnds ends)
    : ¬ IsLineOf (front ++ back) (front ++ added ++ back ++ ends) := by
  rw [isLineOf_iff_trimLineEnds_eq bare, trimLineEnds_append _ run]
  intro same
  by_cases last : back = ""
  · -- What is behind the value was cut off, so it is line endings.
    subst last
    obtain ⟨rest, lineEnds, split⟩ := isLineOf_trimLineEnds (front ++ added)
    simp only [String.append_empty] at same
    rw [same] at split
    exact behind rfl (String.append_right_inj front |>.mp split ▸ lineEnds)
  · -- The end is that of the value, so nothing was cut off.
    have kept : trimLineEnds (front ++ added ++ back) = front ++ added ++ back := by
      rw [trimLineEnds_eq_self_iff, endsInLineEnd_append_iff _ last,
        ← endsInLineEnd_append_iff front last]
      exact bare
    have lengths := congrArg String.length (kept.symm.trans same)
    simp only [String.length_append] at lengths
    exact nonempty (String.length_eq_zero_iff.mp (by omega))

end ModeSwitch.Text
