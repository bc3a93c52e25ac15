import ModeSwitch.Config.Decoding
import ModeSwitch.Proofs.Yaml.Tagged

/-! How device descriptions are written.

A description is written as a mapping of mappings, each with its fields in any order and whatever
else its writer likes.  A tree breaks the rules of a description if one of these mappings does.
-/

namespace ModeSwitch

open Yaml Decode

/-- A text that must be written. -/
def textForm (name text : String) : FieldForm :=
  ⟨name, (·.Spells text), False⟩

/-- A text that must not be missing. -/
def textRule (name : String) : FieldRule :=
  ⟨name, True, Node.IsCollection⟩

namespace Notification

def forms (notification : Notification) : List FieldForm :=
  [⟨"id", (·.Counts notification.id), False⟩, textForm "title" notification.title,
    textForm "body" notification.body,
    ⟨"tap_target", (·.Spells notification.tapTarget), notification.tapTarget = defaultTapTarget⟩]

def rules : List FieldRule :=
  [⟨"id", True, Node.CountsNothing⟩, textRule "title", textRule "body",
    ⟨"tap_target", False, Node.IsCollection⟩]

/-- How the notification of a toggle is written, if it has one. -/
def Writes : Option Notification → Node → Prop
  | none => Node.SaysNothing
  | some notification => Node.WritesRecord notification.forms

end Notification

namespace ToggleSpec

def forms (spec : ToggleSpec) : List FieldForm :=
  [textForm "key" spec.key, textForm "title" spec.title, textForm "path" spec.path.text,
    textForm "enabled_token" spec.tokens.enabled, textForm "disabled_token" spec.tokens.disabled,
    ⟨"notification", Notification.Writes spec.notification, spec.notification = none⟩]

def rules : List FieldRule :=
  [textRule "key", textRule "title", textRule "path", textRule "enabled_token",
    textRule "disabled_token", ⟨"notification", False, Node.BreaksRecord Notification.rules⟩]

end ToggleSpec

namespace CommandService

def forms (service : CommandService) : List FieldForm :=
  [textForm "post_command" service.postCommand,
    ⟨"post_args", (Node.Lists Node.Spells · service.postArgs), service.postArgs = []⟩,
    textForm "withdraw_command" service.withdrawCommand,
    ⟨"withdraw_args", (Node.Lists Node.Spells · service.withdrawArgs), service.withdrawArgs = []⟩]

/-- A command service is read from contents, which are told apart by what they mean. -/
def rules : List FieldRule :=
  [⟨"post_command", True, Node.MeansNoText⟩,
    ⟨"post_args", False, Node.BreaksList Node.MeansNoText⟩,
    ⟨"withdraw_command", True, Node.MeansNoText⟩,
    ⟨"withdraw_args", False, Node.BreaksList Node.MeansNoText⟩]

end CommandService

namespace NotifierChoice

def form : NotifierChoice → Kind × List FieldForm
  | .log => (.log, [])
  | .command service => (.command, service.forms)

def forms (choice : NotifierChoice) : List FieldForm :=
  tagging.form choice.form.1 :: choice.form.2

def rules : Kind → List FieldRule
  | .log => []
  | .command => CommandService.rules

end NotifierChoice

namespace Config

def deviceForms (config : Config) : List FieldForm :=
  [textForm "name" config.name,
    ⟨"notifier", Node.WritesRecord config.notifier.forms, config.notifier = .log⟩,
    ⟨"toggles", (Node.Lists (fun node spec => node.WritesRecord spec.forms) · config.toggles),
      False⟩]

def forms (config : Config) : List FieldForm :=
  [⟨"device", Node.WritesRecord config.deviceForms, False⟩]

def deviceRules : List FieldRule :=
  [textRule "name", ⟨"notifier", False, NotifierChoice.tagging.Breaks NotifierChoice.rules⟩,
    ⟨"toggles", True, Node.BreaksList (Node.BreaksRecord ToggleSpec.rules)⟩]

def rules : List FieldRule :=
  [⟨"device", True, Node.BreaksRecord deviceRules⟩]

end Config

end ModeSwitch
