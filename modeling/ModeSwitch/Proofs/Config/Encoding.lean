import ModeSwitch.Proofs.Config.Writing

/-! The plainest tree of a description.

Every description can be written: all fields in the order in which they are declared, and every text
in quotes.  Nothing is left out, and nothing is added.
-/

namespace ModeSwitch

open Yaml Decode

namespace Yaml.Node

def quoted (text : String) : Node :=
  .scalar .start .none .quoted text

def plain (text : String) : Node :=
  .scalar .start .none .plain text

def sequenceOf (items : List Node) : Node :=
  .sequence .start .none items

def recordOf (fields : List (String × Node)) : Node :=
  .mapping .start .none (fields.map fun field => (quoted field.1, field.2))

theorem quoted_spells (text : String) : (quoted text).Spells text :=
  .scalar .start none .quoted rfl

theorem plain_counts (number : UInt32) : (plain (toString number.toNat)).Counts number :=
  .scalar .start none

/-- A list is written item by item. -/
theorem sequenceOf_lists {α : Type} {Writes : Node → α → Prop} {encode : α → Node}
    (writes : ∀ value, Writes (encode value) value) (values : List α)
    : (sequenceOf (values.map encode)).Lists Writes values := by
  refine .sequence .start none ?_
  rw [List.forall₂_map_left_iff, List.forall₂_same]
  exact fun value _ => writes value

/-- A record that has every field of some forms and no other is written by these forms. -/
theorem recordOf_writesRecord {forms : List FieldForm} {fields : List (String × Node)}
    (distinct : (forms.map (·.name)).Nodup)
    (each
      : List.Forall₂ (fun form field => field.1 = form.name ∧ form.Writes field.2) forms fields)
    : (recordOf fields).WritesRecord forms := by
  let entries : List (NamedEntry Node Node) :=
    fields.map fun field => ⟨field.1, quoted field.1, field.2⟩
  have pairs : entries.map NamedEntry.pair = fields.map fun field => (quoted field.1, field.2) := by
    simp [entries, NamedEntry.pair]
  have names : namesOf entries = forms.map (·.name) := by
    simp only [namesOf, entries, List.map_map]
    clear distinct pairs
    induction each with
    | nil => rfl
    | cons first _ ih => exact congr (congrArg List.cons first.1) ih
  -- No field is left out and none is added, so the last two conditions hold of nothing.
  have write : WriteFields forms entries := by
    refine ⟨?_, names ▸ distinct, ?_, ?_, ?_⟩
    · intro entry member
      obtain ⟨field, -, rfl⟩ := List.mem_map.mp member
      exact quoted_spells field.1
    · intro form described entry member same
      obtain ⟨field, inside, rfl⟩ := List.mem_map.mp member
      obtain ⟨other, listed, named, writes⟩ := exists_of_forall₂ each.flip inside
      obtain rfl : other = form :=
        List.inj_on_of_nodup_map distinct listed described (named.symm.trans same)
      exact writes
    · intro form described absent
      rw [names] at absent
      exact (absent (List.mem_map_of_mem described)).elim
    · intro entry member unknown
      rw [← names] at unknown
      exact (unknown (List.mem_map_of_mem member)).elim
  rw [recordOf, ← pairs]
  exact .mapping .start none write

end Yaml.Node

open Yaml.Node

def Notification.encode (notification : Notification) : Node :=
  recordOf [("id", plain (toString notification.id.toNat)), ("title", quoted notification.title),
    ("body", quoted notification.body), ("tap_target", quoted notification.tapTarget)]

/-- The notification of a toggle, or that there is none. -/
def Notification.encode? : Option Notification → Node
  | none => plain "null"
  | some notification => notification.encode

def ToggleSpec.encode (spec : ToggleSpec) : Node :=
  recordOf [("key", quoted spec.key), ("title", quoted spec.title), ("path", quoted spec.path.text),
    ("enabled_token", quoted spec.tokens.enabled), ("disabled_token", quoted spec.tokens.disabled),
    ("notification", Notification.encode? spec.notification)]

def CommandService.encodedFields (service : CommandService) : List (String × Node) :=
  [("post_command", quoted service.postCommand),
    ("post_args", sequenceOf (service.postArgs.map quoted)),
    ("withdraw_command", quoted service.withdrawCommand),
    ("withdraw_args", sequenceOf (service.withdrawArgs.map quoted))]

def NotifierChoice.encode : NotifierChoice → Node
  | .log => recordOf [("type", quoted "log")]
  | .command service => recordOf (("type", quoted "command") :: service.encodedFields)

def Config.encode (config : Config) : Node :=
  recordOf [("device", recordOf [("name", quoted config.name), ("notifier", config.notifier.encode),
    ("toggles", sequenceOf (config.toggles.map ToggleSpec.encode))])]

theorem Notification.encode_writes (notification : Notification)
    : notification.encode.WritesRecord notification.forms := by
  refine recordOf_writesRecord (by simp [forms, textForm]) ?_
  refine .cons ⟨rfl, plain_counts _⟩ (.cons ⟨rfl, quoted_spells _⟩ ?_)
  exact .cons ⟨rfl, quoted_spells _⟩ (.cons ⟨rfl, quoted_spells _⟩ .nil)

theorem ToggleSpec.encode_writes (spec : ToggleSpec) : spec.encode.WritesRecord spec.forms := by
  have notification
      : Notification.Writes spec.notification (Notification.encode? spec.notification) := by
    cases spec.notification with
    | none => exact .scalar .start none (.inr (by decide))
    | some notification => exact notification.encode_writes
  refine recordOf_writesRecord (by simp [forms, textForm]) ?_
  refine .cons ⟨rfl, quoted_spells _⟩ (.cons ⟨rfl, quoted_spells _⟩ ?_)
  refine .cons ⟨rfl, quoted_spells _⟩ (.cons ⟨rfl, quoted_spells _⟩ ?_)
  exact .cons ⟨rfl, quoted_spells _⟩ (.cons ⟨rfl, notification⟩ .nil)

theorem NotifierChoice.encode_writes (choice : NotifierChoice)
    : choice.encode.WritesRecord choice.forms := by
  cases choice with
  | log =>
      refine recordOf_writesRecord (by simp [forms, form, tagging]) ?_
      exact .cons ⟨rfl, "log", quoted_spells _, rfl⟩ .nil
  | command service =>
      refine recordOf_writesRecord
        (by simp [forms, form, tagging, TaggedKind.form, CommandService.forms, textForm]) ?_
      refine .cons ⟨rfl, "command", quoted_spells _, rfl⟩ (.cons ⟨rfl, quoted_spells _⟩ ?_)
      refine .cons ⟨rfl, sequenceOf_lists quoted_spells _⟩ (.cons ⟨rfl, quoted_spells _⟩ ?_)
      exact .cons ⟨rfl, sequenceOf_lists quoted_spells _⟩ .nil

/-- Every description can be written. -/
theorem Config.encode_writes (config : Config) : config.encode.WritesRecord config.forms := by
  refine recordOf_writesRecord (by simp [forms]) (.cons ⟨rfl, ?_⟩ .nil)
  refine recordOf_writesRecord (by simp [deviceForms, textForm]) ?_
  refine .cons ⟨rfl, quoted_spells _⟩ (.cons ⟨rfl, config.notifier.encode_writes⟩ ?_)
  exact .cons ⟨rfl, sequenceOf_lists ToggleSpec.encode_writes _⟩ .nil

end ModeSwitch
