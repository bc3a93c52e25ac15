import ModeSwitch.Notification

/-! What calls leave on display.

A call concerns one id only.  Under that id a withdrawal leaves nothing, and a post leaves what was
posted.
-/

namespace ModeSwitch

def NotifierCall.id : NotifierCall → UInt32
  | .withdraw id => id
  | .post notification => notification.id

def callsAbout (id : UInt32) (calls : List NotifierCall) : List NotifierCall :=
  calls.filter (·.id = id)

@[simp]
theorem callsAbout_append (id : UInt32) (first second : List NotifierCall)
    : callsAbout id (first ++ second) = callsAbout id first ++ callsAbout id second :=
  List.filter_append ..

namespace Tray

variable (tray : Tray)

@[simp]
theorem get?_empty (id : UInt32) : empty.get? id = none :=
  rfl

/-- Clearing an id is not seen under any other id. -/
theorem get?_filter (id other : UInt32)
    : (⟨tray.shown.filter (·.id ≠ id)⟩ : Tray).get? other
      = if other = id then none else tray.get? other := by
  unfold get?
  rw [List.find?_filter]
  by_cases same : other = id
  · subst same
    simp
  · have apart : ∀ n : Notification, (n.id ≠ id ∧ n.id = other) ↔ n.id = other := by
      intro n
      constructor
      · rintro ⟨-, found⟩
        exact found
      · rintro rfl
        exact ⟨same, rfl⟩
    simp only [same, if_false]
    congr 1
    funext n
    simpa using apart n

/-- A withdrawal clears its own id and no other. -/
@[simp]
theorem get?_receive_withdraw (id other : UInt32)
    : (tray.receive (.withdraw id)).get? other
      = if other = id then none else tray.get? other :=
  tray.get?_filter id other

/-- A post takes the place of what was on display under its id. -/
@[simp]
theorem get?_receive_post (notification : Notification) (other : UInt32)
    : (tray.receive (.post notification)).get? other
      = if other = notification.id then some notification else tray.get? other := by
  have filtered := tray.get?_filter notification.id other
  by_cases same : other = notification.id
  · simp [receive, get?, same]
  · have apart : notification.id ≠ other := fun h => same h.symm
    simp only [same, if_false, get?] at filtered ⊢
    simpa [receive, apart] using filtered

/-- What is on display under an id depends on the calls about this id only, by induction on the
calls. -/
theorem get?_foldl_callsAbout (calls : List NotifierCall) (id : UInt32) (other : Tray)
    (same : tray.get? id = other.get? id)
    : (calls.foldl receive tray).get? id
      = ((callsAbout id calls).foldl receive other).get? id := by
  induction calls generalizing tray other with
  | nil => exact same
  | cons call calls ih =>
      -- A call about another id changes neither side.
      by_cases about : call.id = id
      · have kept : callsAbout id (call :: calls) = call :: callsAbout id calls := by
          simp [callsAbout, about]
        rw [kept]
        refine ih _ _ ?_
        cases call <;> simp [same]
      · have dropped : callsAbout id (call :: calls) = callsAbout id calls := by
          simp [callsAbout, about]
        have apart : ¬ id = call.id := fun h => about h.symm
        rw [dropped]
        refine ih _ _ (Eq.trans ?_ same)
        cases call <;> simp_all [NotifierCall.id]

/-- Calls that agree about an id leave the same under it. -/
theorem get?_replay_congr {first second : List NotifierCall} {id : UInt32}
    (same : callsAbout id first = callsAbout id second)
    : (replay first).get? id = (replay second).get? id := by
  unfold replay
  rw [empty.get?_foldl_callsAbout first id empty rfl, same,
    ← empty.get?_foldl_callsAbout second id empty rfl]

/-- Further calls are replayed on what the calls before left. -/
theorem replay_append (calls further : List NotifierCall)
    : replay (calls ++ further) = further.foldl receive (replay calls) :=
  List.foldl_append

end Tray

/-- Every post directly follows a withdrawal of its id. -/
def Replacing (calls : List NotifierCall) : Prop :=
  ∀ before notification after,
    calls = before ++ .post notification :: after
    → ∃ earlier, before = earlier ++ [.withdraw notification.id]

namespace Replacing

theorem nil : Replacing [] := by
  intro before notification after split
  simp at split

theorem withdrawal (id : UInt32) : Replacing [.withdraw id] := by
  intro before notification after split
  cases before <;> simp at split

/-- A notification that is withdrawn and posted is replaced. -/
theorem replacement (posted : Notification)
    : Replacing [.withdraw posted.id, .post posted] := by
  intro before notification after split
  match before with
  | [] => simp at split
  | [call] =>
      obtain ⟨rfl, rfl, -⟩ : .withdraw posted.id = call ∧ posted = notification ∧ [] = after := by
        simpa using split
      exact ⟨[], rfl⟩
  | _ :: _ :: _ => simp at split

/-- Sequences of calls that replace what they post may follow each other: a post in the second one
has its withdrawal there as well. -/
theorem append {first second : List NotifierCall} (hfirst : Replacing first)
    (hsecond : Replacing second)
    : Replacing (first ++ second) := by
  intro before notification after split
  rcases List.append_eq_append_iff.mp split with ⟨middle, rfl, inSecond⟩ | ⟨middle, inFirst, rest⟩
  · obtain ⟨earlier, rfl⟩ := hsecond middle notification after inSecond
    exact ⟨first ++ earlier, (List.append_assoc ..).symm⟩
  · cases middle with
    | nil =>
        obtain ⟨earlier, none⟩ := hsecond [] notification after rest.symm
        simp at none
    | cons call middle =>
        obtain ⟨rfl, rfl⟩ := List.cons.inj rest
        exact hfirst before notification middle inFirst

end Replacing

end ModeSwitch
