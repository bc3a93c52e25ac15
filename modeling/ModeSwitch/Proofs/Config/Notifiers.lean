import ModeSwitch.Proofs.Config.Writing

/-! Notifiers as they are read.

The fields of a command service stand beside the type and are read from contents, on another way
than those of the other records.  What is written is read all the same, and what breaks a rule is
refused.
-/

namespace ModeSwitch

open Yaml Decode

namespace CommandService

def among (service : CommandService) (done : List String) : Parts where
  postCommand := amongRead done "post_command" service.postCommand
  postArgs := amongRead done "post_args" service.postArgs
  withdrawCommand := amongRead done "withdraw_command" service.withdrawCommand
  withdrawArgs := amongRead done "withdraw_args" service.withdrawArgs

theorem fields_read (service : CommandService)
    : List.Forall₂ (Reads Content.Keeps service.among) Parts.fields service.forms := by
  refine .cons ?postCommand (.cons ?postArgs (.cons ?withdrawCommand (.cons ?withdrawArgs .nil)))
  case postCommand =>
    exact keeping_reads (fun _ => rfl) (fun done => by simp [among]) fun _ _ keeps spells =>
      contentText_of_keeps keeps spells
  case postArgs =>
    exact keeping_reads (fun _ => rfl) (fun done => by simp [among]) fun _ _ keeps lists =>
      contentTexts_of_keeps keeps lists
  case withdrawCommand =>
    exact keeping_reads (fun _ => rfl) (fun done => by simp [among]) fun _ _ keeps spells =>
      contentText_of_keeps keeps spells
  case withdrawArgs =>
    exact keeping_reads (fun _ => rfl) (fun done => by simp [among]) fun _ _ keeps lists =>
      contentTexts_of_keeps keeps lists

theorem ofContent_map (entries : List (NamedEntry Content Content))
    : ofContent (.map (entries.map NamedEntry.pair))
      = (do
          let parts ← fields (contentField (Parts.fields.map (·.name))) Parts.fields
            (entries.map NamedEntry.pair) Parts.none
          ofCheck parts.complete) :=
  rfl

def known : List String :=
  Parts.fields.map (·.name)

variable {held : List (NamedEntry Content Content)} {written : List (NamedEntry Node Node)}

/-- A command service is read from the contents of whatever writes one. -/
theorem ofContent_eq_pure {service : CommandService}
    (carried : List.Forall₂ (Carries (contentField known) Content.Keeps) held written)
    (write : WriteFields service.forms written)
    : ofContent (.map (held.map NamedEntry.pair)) = pure service := by
  rw [ofContent_map]
  refine parts_eq_pure (fields_read service) ?skips ?completes carried write
  case skips =>
    intro name unknown done
    simp only [forms, textForm, List.map_cons, List.map_nil, List.mem_cons, List.not_mem_nil,
      or_false, not_or] at unknown
    simp [among, unknown, eq_comm]
  case completes =>
    intro names omitted
    simp only [forms, textForm, List.forall_mem_cons] at omitted
    obtain ⟨postCommand, postArgs, withdrawCommand, withdrawArgs, -⟩ := omitted
    simp only [among, Parts.complete, required_amongRead postCommand,
      required_amongRead withdrawCommand, getD_amongRead postArgs, getD_amongRead withdrawArgs]
    rfl

/-- The parts that a command service cannot be without. -/
theorem isSome_of_complete {parts : Parts} {service : CommandService}
    (completed : parts.complete = .ok service)
    : parts.postCommand.isSome = true ∧ parts.withdrawCommand.isSome = true := by
  obtain ⟨postCommand, _, rest⟩ := isSome_of_required completed
  obtain ⟨withdrawCommand, _, _⟩ := isSome_of_required rest
  exact ⟨postCommand, withdrawCommand⟩

theorem fields_obey
    : List.Forall₂ (Obeys Content.Keeps Parts.complete) Parts.fields rules := by
  refine .cons ?postCommand (.cons ?postArgs (.cons ?withdrawCommand (.cons ?withdrawArgs .nil)))
  case postCommand =>
    exact keeping_obeys (fun _ _ keeps other => contentText_fails keeps other) fun _ _ _ completed =>
      (isSome_of_complete completed).1
  case postArgs =>
    exact keeping_obeys (fun _ _ keeps breaks => contentTexts_fails keeps breaks) False.elim
  case withdrawCommand =>
    exact keeping_obeys (fun _ _ keeps other => contentText_fails keeps other) fun _ _ _ completed =>
      (isSome_of_complete completed).2
  case withdrawArgs =>
    exact keeping_obeys (fun _ _ keeps breaks => contentTexts_fails keeps breaks) False.elim

theorem fields_separate : Separate Parts.fields where
  distinct := by
    simp [Parts.fields, Parts.contentPart]
  sets := by
    intro field member other inside held record
    simp only [Parts.fields, List.mem_cons, List.not_mem_nil, or_false] at member
    rcases member with rfl | rfl | rfl | rfl
    all_goals
      refine keeping_sets (fun record value => ?_) held record
      revert other
      simp [Parts.fields, Parts.contentPart]

theorem ofContent_fails
    (carried : List.Forall₂ (Carries (contentField known) Content.Keeps) held written)
    (breaks : BreakFields rules written)
    : Fails (ofContent (.map (held.map NamedEntry.pair))) := by
  rw [ofContent_map]
  exact parts_fail fields_separate fields_obey (by simp [Parts.fields, Parts.contentPart, Parts.none])
    carried breaks

end CommandService

namespace NotifierChoice

/-- What writes a field of a notifier has a content. -/
theorem content_of_form (around : Surroundings) {choice : NotifierChoice} {form : FieldForm}
    (described : form ∈ choice.form.2) {node : Node} (writes : form.Writes node)
    : ∃ content, ∀ path, Decode.content around depth path node = pure content := by
  cases choice with
  | log => cases described
  | command service =>
      have text {said : String} (spells : node.Spells said)
          : ∃ content, ∀ path, Decode.content around depth path node = pure content :=
        ⟨_, fun path => content_of_spells around depth path spells⟩
      have texts {said : List String} (lists : node.Lists Node.Spells said)
          : ∃ content, ∀ path, Decode.content around depth path node = pure content :=
        ⟨_, fun path => content_of_lists around (depth - 1) path lists⟩
      simp only [NotifierChoice.form, CommandService.forms, List.mem_cons, List.not_mem_nil,
        or_false] at described
      rcases described with rfl | rfl | rfl | rfl
      · exact text writes
      · exact texts writes
      · exact text writes
      · exact texts writes

/-- Whatever writes a notifier is read as that notifier, wherever its type stands. -/
theorem decode_eq_pure (around : Surroundings) {choice : NotifierChoice} {node : Node}
    (writes : node.WritesRecord choice.forms) (path : Path)
    : decode around path node = pure choice := by
  have fresh : tagging.field ∉ choice.form.2.map (·.name) := by
    cases choice <;> simp [tagging, NotifierChoice.form, CommandService.forms, textForm]
  obtain ⟨held, written, write, carried, read⟩ := tagged_eq_pure around depth path fresh
    (fun form described node writes => content_of_form around described writes)
    CommandService.known writes
  rw [decode, read, pure_bind]
  cases choice with
  | log => rfl
  | command service =>
      have service := CommandService.ofContent_eq_pure carried write
      simp only [NotifierChoice.form, ofTagged, service, pure_bind]

/-- Whatever breaks a rule of notifiers is not read. -/
theorem decode_fails (around : Surroundings) {node : Node} (breaks : tagging.Breaks rules node)
    (path : Path)
    : Fails (decode around path node) := by
  have fresh (kind : Kind) : ∀ rule ∈ rules kind, rule.name ≠ tagging.field := by
    cases kind <;> simp [tagging, rules, CommandService.rules]
  refine (tagged_ensures around depth path fresh CommandService.known breaks).bind ?_
  rintro ⟨kind, content⟩ ⟨held, written, rfl, carried, breaks⟩
  cases kind with
  | log => cases breaks <;> contradiction
  | command => exact (CommandService.ofContent_fails carried breaks).bind

end NotifierChoice

end ModeSwitch
