import ModeSwitch.Proofs.Config.Parts
import ModeSwitch.Proofs.Config.Writing

/-! Toggles as they are read.

A toggle is read from every tree that writes it, and from no tree that breaks a rule of it or of its
notification.
-/

namespace ModeSwitch

open Yaml Decode

namespace Notification

def among (notification : Notification) (done : List String) : Parts where
  id := amongRead done "id" notification.id
  title := amongRead done "title" notification.title
  body := amongRead done "body" notification.body
  tapTarget := amongRead done "tap_target" notification.tapTarget

theorem fields_read (around : Surroundings) (notification : Notification)
    : List.Forall₂ (Reads IsAt notification.among) (Parts.fields around) notification.forms := by
  refine .cons ?id (.cons ?title (.cons ?body (.cons ?tapTarget .nil)))
  case id =>
    exact part_reads (fun _ => rfl) (fun done => by simp [among]) fun node counts path =>
      number_of_counts around path counts
  case title => exact textPart_reads around _ (fun _ => rfl) fun done => by simp [among]
  case body => exact textPart_reads around _ (fun _ => rfl) fun done => by simp [among]
  case tapTarget => exact textPart_reads around _ (fun _ => rfl) fun done => by simp [among]

/-- Whatever writes a notification is read as that notification. -/
theorem decode_eq_pure (around : Surroundings) {notification : Notification} {node : Node}
    (writes : node.WritesRecord notification.forms) (path : Path)
    : decode around path node = pure notification := by
  refine record_eq_pure around _ (fields_read around notification) ?skips rfl ?completes path writes
  case skips =>
    intro name unknown done
    simp only [forms, textForm, List.map_cons, List.map_nil, List.mem_cons, List.not_mem_nil,
      or_false, not_or] at unknown
    simp [among, unknown, eq_comm]
  case completes =>
    intro names omitted
    simp only [forms, textForm, List.forall_mem_cons] at omitted
    obtain ⟨id, title, body, tapTarget, -⟩ := omitted
    simp only [among, Parts.complete, required_amongRead id, required_amongRead title,
      required_amongRead body, getD_amongRead tapTarget]
    rfl

/-- The parts that a notification cannot be without. -/
theorem isSome_of_complete {parts : Parts} {notification : Notification}
    (completed : parts.complete = .ok notification)
    : parts.id.isSome = true ∧ parts.title.isSome = true ∧ parts.body.isSome = true := by
  obtain ⟨id, _, rest⟩ := isSome_of_required completed
  obtain ⟨title, _, rest⟩ := isSome_of_required rest
  obtain ⟨body, _, _⟩ := isSome_of_required rest
  exact ⟨id, title, body⟩

theorem fields_obey (around : Surroundings)
    : List.Forall₂ (Obeys IsAt Parts.complete) (Parts.fields around) rules := by
  refine .cons ?id (.cons ?title (.cons ?body (.cons ?tapTarget .nil)))
  case id =>
    exact part_obeys (fun _ other path => number_fails around path other) fun _ _ _ completed =>
      (isSome_of_complete completed).1
  case title =>
    exact textPart_obeys around _ fun _ _ _ completed => (isSome_of_complete completed).2.1
  case body =>
    exact textPart_obeys around _ fun _ _ _ completed => (isSome_of_complete completed).2.2
  case tapTarget => exact textPart_obeys around _ False.elim

theorem fields_separate (around : Surroundings) : Separate (Parts.fields around) where
  distinct := by
    simp [Parts.fields, part]
  sets := by
    intro field member other inside held record
    simp only [Parts.fields, List.mem_cons, List.not_mem_nil, or_false] at member
    rcases member with rfl | rfl | rfl | rfl
    all_goals
      refine part_sets (fun record value => ?_) held record
      revert other
      simp [Parts.fields, part]

theorem decode_fails (around : Surroundings) {node : Node} (breaks : node.BreaksRecord rules)
    (path : Path)
    : Fails (decode around path node) :=
  record_fails around _ (fields_separate around) (fields_obey around)
    (by simp [Parts.fields, part, Parts.none]) path breaks

end Notification

namespace ToggleSpec

def among (spec : ToggleSpec) (done : List String) : Parts where
  key := amongRead done "key" spec.key
  title := amongRead done "title" spec.title
  path := amongRead done "path" spec.path.text
  enabled := amongRead done "enabled_token" spec.tokens.enabled
  disabled := amongRead done "disabled_token" spec.tokens.disabled
  notification := amongRead done "notification" spec.notification

/-- A toggle may be written without a notification, and is read so. -/
theorem notification_read (around : Surroundings) {notification : Option Notification} {node : Node}
    (writes : Notification.Writes notification node) (path : Path)
    : optional around (Notification.decode around) path node = pure notification := by
  cases notification with
  | none => exact optional_of_saysNothing around path writes
  | some notification =>
      exact optional_of_writesRecord around path writes
        (Notification.decode_eq_pure around writes path)

theorem fields_read (around : Surroundings) (spec : ToggleSpec)
    : List.Forall₂ (Reads IsAt spec.among) (Parts.fields around) spec.forms := by
  refine .cons ?key (.cons ?title (.cons ?path (.cons ?enabled (.cons ?disabled
    (.cons ?notification .nil)))))
  case key => exact textPart_reads around _ (fun _ => rfl) fun done => by simp [among]
  case title => exact textPart_reads around _ (fun _ => rfl) fun done => by simp [among]
  case path => exact textPart_reads around _ (fun _ => rfl) fun done => by simp [among]
  case enabled => exact textPart_reads around _ (fun _ => rfl) fun done => by simp [among]
  case disabled => exact textPart_reads around _ (fun _ => rfl) fun done => by simp [among]
  case notification =>
    exact part_reads (fun _ => rfl) (fun done => by simp [among]) fun _ writes path =>
      notification_read around writes path

/-- Whatever writes a toggle is read as that toggle. -/
theorem decode_eq_pure (around : Surroundings) {spec : ToggleSpec} {node : Node}
    (writes : node.WritesRecord spec.forms) (path : Path)
    : decode around path node = pure spec := by
  refine record_eq_pure around _ (fields_read around spec) ?skips rfl ?completes path writes
  case skips =>
    intro name unknown done
    simp only [forms, textForm, List.map_cons, List.map_nil, List.mem_cons, List.not_mem_nil,
      or_false, not_or] at unknown
    simp [among, unknown, eq_comm]
  case completes =>
    intro names omitted
    simp only [forms, textForm, List.forall_mem_cons] at omitted
    obtain ⟨key, title, path, enabled, disabled, notification, -⟩ := omitted
    simp only [among, Parts.complete, required_amongRead key, required_amongRead title,
      required_amongRead path, required_amongRead enabled, required_amongRead disabled,
      getD_amongRead notification]
    rfl

/-- The parts that a toggle cannot be without. -/
structure HasParts (parts : Parts) : Prop where
  key : parts.key.isSome = true
  title : parts.title.isSome = true
  path : parts.path.isSome = true
  enabled : parts.enabled.isSome = true
  disabled : parts.disabled.isSome = true

/-- Every part without a default has been read of a toggle that is complete. -/
theorem hasParts_of_complete {parts : Parts} {spec : ToggleSpec}
    (completed : parts.complete = .ok spec)
    : HasParts parts := by
  obtain ⟨key, _, rest⟩ := isSome_of_required completed
  obtain ⟨title, _, rest⟩ := isSome_of_required rest
  obtain ⟨path, _, rest⟩ := isSome_of_required rest
  obtain ⟨enabled, _, rest⟩ := isSome_of_required rest
  obtain ⟨disabled, _, _⟩ := isSome_of_required rest
  exact ⟨key, title, path, enabled, disabled⟩

theorem fields_obey (around : Surroundings)
    : List.Forall₂ (Obeys IsAt Parts.complete) (Parts.fields around) rules := by
  refine .cons ?key (.cons ?title (.cons ?path (.cons ?enabled (.cons ?disabled
    (.cons ?notification .nil)))))
  case key =>
    exact textPart_obeys around _ fun _ _ _ completed => (hasParts_of_complete completed).key
  case title =>
    exact textPart_obeys around _ fun _ _ _ completed => (hasParts_of_complete completed).title
  case path =>
    exact textPart_obeys around _ fun _ _ _ completed => (hasParts_of_complete completed).path
  case enabled =>
    exact textPart_obeys around _ fun _ _ _ completed => (hasParts_of_complete completed).enabled
  case disabled =>
    exact textPart_obeys around _ fun _ _ _ completed => (hasParts_of_complete completed).disabled
  case notification =>
    refine part_obeys (fun node breaks path => ?_) False.elim
    exact optional_fails around path breaks (Notification.decode_fails around breaks path)

theorem fields_separate (around : Surroundings) : Separate (Parts.fields around) where
  distinct := by
    simp [Parts.fields, part]
  sets := by
    intro field member other inside held record
    simp only [Parts.fields, List.mem_cons, List.not_mem_nil, or_false] at member
    rcases member with rfl | rfl | rfl | rfl | rfl | rfl
    all_goals
      refine part_sets (fun record value => ?_) held record
      revert other
      simp [Parts.fields, part]

theorem decode_fails (around : Surroundings) {node : Node} (breaks : node.BreaksRecord rules)
    (path : Path)
    : Fails (decode around path node) :=
  record_fails around _ (fields_separate around) (fields_obey around)
    (by simp [Parts.fields, part, Parts.none]) path breaks

end ToggleSpec

end ModeSwitch
