import ModeSwitch.Session

/-! Sessions in which some moves are left out.

A move may be left out of a session if it leaves nothing behind that a later move depends on.  Then
the moves that stay are reported as they were.
-/

namespace ModeSwitch

/-- A list of which some elements were left out; each of them had to qualify. -/
inductive Omits {α : Type} (Qualifies : α → Prop) : List α → List α → Prop where
  | nil : Omits Qualifies [] []
  | keep (a : α) {whole rest : List α} (more : Omits Qualifies whole rest)
    : Omits Qualifies (a :: whole) (a :: rest)
  | drop (a : α) {whole rest : List α} (qualifies : Qualifies a)
    (more : Omits Qualifies whole rest)
    : Omits Qualifies (a :: whole) rest

/-- All the elements that qualify may be left out. -/
theorem omits_filter {α : Type} (qualifies : α → Bool) (whole : List α)
    : Omits (qualifies · = true) whole (whole.filter fun a => !qualifies a) := by
  induction whole with
  | nil => exact .nil
  | cons a whole ih =>
      cases h : qualifies a with
      | true => simpa [h] using ih.drop a h
      | false => simpa [h] using ih.keep a

/-- What is left out of a list is left out beside any marks of its elements, by induction on what is
left out. -/
theorem Omits.exists_zip {α β : Type} {Qualifies : α → Prop} {whole rest : List α}
    (omitted : Omits Qualifies whole rest) {marks : List β} (marked : marks.length = whole.length)
    : ∃ kept, Omits (fun made => Qualifies made.1) (whole.zip marks) kept ∧ kept.map (·.1) = rest := by
  induction omitted generalizing marks with
  | nil => exact ⟨[], by simpa using Omits.nil, rfl⟩
  | keep a _ ih =>
      obtain ⟨mark, marks, rfl⟩ := List.exists_cons_of_length_eq_add_one marked
      obtain ⟨kept, left, same⟩ := ih (Nat.succ.inj marked)
      exact ⟨(a, mark) :: kept, .keep _ left, congrArg (a :: ·) same⟩
  | drop a qualifies _ ih =>
      obtain ⟨mark, marks, rfl⟩ := List.exists_cons_of_length_eq_add_one marked
      obtain ⟨kept, left, same⟩ := ih (Nat.succ.inj marked)
      exact ⟨kept, .drop _ qualifies left, same⟩

namespace Session

/-- Every move is reported. -/
theorem length_runAll {δ ι : Type} (bench : Bench δ ι) (surface : Surface) (moves : List (Move ι))
    (session : Session δ)
    : (session.runAll bench surface moves).1.length = moves.length := by
  induction moves generalizing session with
  | nil => rfl
  | cons next rest ih => exact congrArg (· + 1) (ih _)

variable {δ ι : Type} {bench : Bench δ ι} {surface : Surface}
  {Qualifies : Move ι × MoveReport → Prop} (Alike : Session δ → Session δ → Prop)

/-- The moves that stay are reported as they were, and the sessions end alike, by induction on the
moves: sessions that are alike report a move in the same way and stay alike, and a move that may be
left out leaves a session alike. -/
theorem runAll_omits
    (advances
      : ∀ session other next,
          Alike session other
          → (session.advance bench surface next).1 = (other.advance bench surface next).1
            ∧ Alike (session.advance bench surface next).2 (other.advance bench surface next).2)
    (omits
      : ∀ session other next,
          Alike session other
          → Qualifies (next, (session.advance bench surface next).1)
          → Alike (session.advance bench surface next).2 other)
    {moves : List (Move ι)} {session other : Session δ} {rest : List (Move ι × MoveReport)}
    (alike : Alike session other)
    (omitted : Omits Qualifies (moves.zip (session.runAll bench surface moves).1) rest)
    : let course := other.runAll bench surface (rest.map (·.1))
      course.1 = rest.map (·.2) ∧ Alike (session.runAll bench surface moves).2 course.2 := by
  induction moves generalizing session other rest with
  | nil =>
      cases omitted
      exact ⟨rfl, alike⟩
  | cons next moves ih =>
      cases omitted with
      | keep _ more =>
          obtain ⟨same, after⟩ := advances session other next alike
          obtain ⟨reports, later⟩ := ih after more
          exact ⟨congr (congrArg List.cons same.symm) reports, later⟩
      | drop _ qualifies more =>
          exact ih (omits session other next alike qualifies) more

end Session

end ModeSwitch
