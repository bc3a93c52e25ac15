import ModeSwitch.Proofs.Config.Notifiers
import ModeSwitch.Proofs.Config.Toggles

/-! Devices as they are read.

The device of a description is read like its toggles, and so is the description around it.  Where the
description stands, and what else is known of its document, makes no difference.
-/

namespace ModeSwitch

open Yaml Decode

namespace Config

/-! ## Devices -/

def among (config : Config) (done : List String) : Parts where
  name := amongRead done "name" config.name
  notifier := amongRead done "notifier" config.notifier
  toggles := amongRead done "toggles" config.toggles

/-- Every field of a device reads what its form writes. -/
theorem fields_read (around : Surroundings) (config : Config)
    : List.Forall₂ (Reads IsAt config.among) (Parts.fields around) config.deviceForms := by
  refine .cons ?name (.cons ?notifier (.cons ?toggles .nil))
  case name => exact textPart_reads around _ (fun _ => rfl) fun done => by simp [among]
  case notifier =>
    exact part_reads (fun _ => rfl) (fun done => by simp [among]) fun _ writes path =>
      NotifierChoice.decode_eq_pure around writes path
  case toggles =>
    refine part_reads (fun _ => rfl) (fun done => by simp [among]) fun _ lists path => ?_
    exact list_eq_pure around path
      (fun _ _ writes path => ToggleSpec.decode_eq_pure around writes path) lists

theorem decodeDevice_eq_pure (around : Surroundings) {config : Config} {node : Node}
    (writes : node.WritesRecord config.deviceForms) (path : Path)
    : decodeDevice around path node = pure config := by
  refine record_eq_pure around _ (fields_read around config) ?skips rfl ?completes path writes
  case skips =>
    intro name unknown done
    simp only [deviceForms, textForm, List.map_cons, List.map_nil, List.mem_cons, List.not_mem_nil,
      or_false, not_or] at unknown
    simp [among, unknown, eq_comm]
  case completes =>
    intro names omitted
    simp only [deviceForms, textForm, List.forall_mem_cons] at omitted
    obtain ⟨name, notifier, toggles, -⟩ := omitted
    simp only [among, Parts.complete, required_amongRead name, required_amongRead toggles,
      getD_amongRead notifier]
    rfl

/-- The parts that a device cannot be without. -/
theorem isSome_of_complete {parts : Parts} {config : Config}
    (completed : parts.complete = .ok config)
    : parts.name.isSome = true ∧ parts.toggles.isSome = true := by
  obtain ⟨name, _, rest⟩ := isSome_of_required completed
  obtain ⟨toggles, _, _⟩ := isSome_of_required rest
  exact ⟨name, toggles⟩

/-- Every field of a device refuses what breaks its rule. -/
theorem fields_obey (around : Surroundings)
    : List.Forall₂ (Obeys IsAt Parts.complete) (Parts.fields around) deviceRules := by
  refine .cons ?name (.cons ?notifier (.cons ?toggles .nil))
  case name =>
    exact textPart_obeys around _ fun _ _ _ completed => (isSome_of_complete completed).1
  case notifier =>
    exact part_obeys (fun _ breaks path => NotifierChoice.decode_fails around breaks path) False.elim
  case toggles =>
    refine part_obeys (fun _ breaks path => ?_) fun _ _ _ completed =>
      (isSome_of_complete completed).2
    exact list_fails around path
      (fun _ breaks path => ToggleSpec.decode_fails around breaks path) breaks

theorem fields_separate (around : Surroundings) : Separate (Parts.fields around) where
  distinct := by
    simp [Parts.fields, part]
  sets := by
    intro field member other inside held record
    simp only [Parts.fields, List.mem_cons, List.not_mem_nil, or_false] at member
    rcases member with rfl | rfl | rfl
    all_goals
      refine part_sets (fun record value => ?_) held record
      revert other
      simp [Parts.fields, part]

/-- No device is read where a rule of devices is broken. -/
theorem decodeDevice_fails (around : Surroundings) {node : Node}
    (breaks : node.BreaksRecord deviceRules) (path : Path)
    : Fails (decodeDevice around path node) :=
  record_fails around _ (fields_separate around) (fields_obey around)
    (by simp [Parts.fields, part, Parts.none]) path breaks

/-! ## Descriptions -/

/-- Whatever writes a description is read as that description. -/
theorem decode_eq_pure (around : Surroundings) {config : Config} {node : Node}
    (writes : node.WritesRecord config.forms) (path : Path)
    : decode around path node = pure config := by
  let among (done : List String) := amongRead done "device" config
  have reads : List.Forall₂ (Reads IsAt among)
      [part "device" id (fun _ config => some config) (decodeDevice around)] config.forms := by
    refine .cons (part_reads (fun _ => rfl) (fun done => by simp [among]) fun _ writes path => ?_) .nil
    exact decodeDevice_eq_pure around writes path
  refine record_eq_pure around _ reads ?skips rfl ?completes path writes
  case skips =>
    intro name unknown done
    simp only [forms, List.map_cons, List.map_nil, List.mem_cons, List.not_mem_nil, or_false]
      at unknown
    simp [among, unknown, eq_comm]
  case completes =>
    intro names omitted
    exact required_amongRead (omitted _ List.mem_cons_self)

/-- Whatever breaks a rule of descriptions is not read. -/
theorem decode_fails (around : Surroundings) {node : Node} (breaks : node.BreaksRecord rules)
    (path : Path)
    : Fails (decode around path node) := by
  refine record_fails around _ ⟨by simp, ?sets⟩ (.cons ?obeys .nil) (by simp [part]) path breaks
  case sets =>
    intro field member other inside held record
    obtain rfl := List.mem_singleton.mp member
    obtain rfl := List.mem_singleton.mp inside
    exact part_sets (fun _ _ => by simp [part]) held record
  case obeys =>
    refine part_obeys (fun _ breaks path => decodeDevice_fails around breaks path) ?_
    rintro - record config completed
    cases record with
    | none => cases completed
    | some config => rfl

end Config

end ModeSwitch
