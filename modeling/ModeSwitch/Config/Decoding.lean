import ModeSwitch.Config
import ModeSwitch.Yaml.Content

/-! Decoding device descriptions.

A description is a record of records.  A notification may be left out, and so may whatever has a
value by default.  The notifier is a tagged record: its type may stand behind its other fields, and
errors in these are told with the position of the device.
-/

namespace ModeSwitch

open Yaml Decode

/-- A field of a record whose parts are collected one by one. -/
def part {ρ α : Type} (name : String) (get : ρ → Option α) (put : ρ → α → ρ)
    (read : Path → Node → Decode α) : Field (Path × Node) ρ where
  name
  isSet record := (get record).isSome
  read node record := do return put record (← read node.1 node.2)

/-! ## Notifications -/

namespace Notification

structure Parts where
  id : Option UInt32
  title : Option String
  body : Option String
  tapTarget : Option String

namespace Parts

def none : Parts := ⟨.none, .none, .none, .none⟩

def fields (around : Surroundings) : List (Field (Path × Node) Parts) :=
  [part "id" Parts.id (fun parts value => { parts with id := some value }) (number around),
    part "title" title (fun parts value => { parts with title := some value })
      (text around "a string"),
    part "body" body (fun parts value => { parts with body := some value })
      (text around "a string"),
    part "tap_target" tapTarget (fun parts value => { parts with tapTarget := some value })
      (text around "a string")]

def complete (parts : Parts) : Except Mismatch Notification := do
  let id ← required "id" parts.id
  let title ← required "title" parts.title
  let body ← required "body" parts.body
  return ⟨id, title, body, parts.tapTarget.getD defaultTapTarget⟩

end Parts

def decode (around : Surroundings) : Path → Node → Decode Notification :=
  record around "NotificationSpec" (Parts.fields around) Parts.none Parts.complete

end Notification

/-! ## Toggles -/

namespace ToggleSpec

structure Parts where
  key : Option String
  title : Option String
  path : Option String
  enabled : Option String
  disabled : Option String
  notification : Option (Option Notification)

namespace Parts

def none : Parts := ⟨.none, .none, .none, .none, .none, .none⟩

def fields (around : Surroundings) : List (Field (Path × Node) Parts) :=
  [part "key" key (fun parts value => { parts with key := some value }) (text around "a string"),
    part "title" title (fun parts value => { parts with title := some value })
      (text around "a string"),
    part "path" path (fun parts value => { parts with path := some value })
      (text around "path string"),
    part "enabled_token" enabled (fun parts value => { parts with enabled := some value })
      (text around "a string"),
    part "disabled_token" disabled (fun parts value => { parts with disabled := some value })
      (text around "a string"),
    part "notification" notification
      (fun parts value => { parts with notification := some value })
      (optional around (Notification.decode around))]

def complete (parts : Parts) : Except Mismatch ToggleSpec := do
  let key ← required "key" parts.key
  let title ← required "title" parts.title
  let path ← required "path" parts.path
  let enabled ← required "enabled_token" parts.enabled
  let disabled ← required "disabled_token" parts.disabled
  return ⟨key, title, ⟨path⟩, ⟨enabled, disabled⟩, parts.notification.getD .none⟩

end Parts

def decode (around : Surroundings) : Path → Node → Decode ToggleSpec :=
  record around "ToggleSpec" (Parts.fields around) Parts.none Parts.complete

end ToggleSpec

/-! ## Notifiers -/

namespace CommandService

structure Parts where
  postCommand : Option String
  postArgs : Option (List String)
  withdrawCommand : Option String
  withdrawArgs : Option (List String)

namespace Parts

def none : Parts := ⟨.none, .none, .none, .none⟩

/-- A field whose content is decoded. -/
def contentPart {α : Type} (name : String) (get : Parts → Option α)
    (put : Parts → α → Parts) (read : Content → Decode α) : Field Content Parts where
  name
  isSet parts := (get parts).isSome
  read content parts := do return put parts (← read content)

def fields : List (Field Content Parts) :=
  [contentPart "post_command" postCommand
      (fun parts value => { parts with postCommand := some value }) contentText,
    contentPart "post_args" postArgs
      (fun parts value => { parts with postArgs := some value }) contentTexts,
    contentPart "withdraw_command" withdrawCommand
      (fun parts value => { parts with withdrawCommand := some value }) contentText,
    contentPart "withdraw_args" withdrawArgs
      (fun parts value => { parts with withdrawArgs := some value }) contentTexts]

def complete (parts : Parts) : Except Mismatch CommandService := do
  let postCommand ← required "post_command" parts.postCommand
  let withdrawCommand ← required "withdraw_command" parts.withdrawCommand
  return ⟨postCommand, parts.postArgs.getD [], withdrawCommand, parts.withdrawArgs.getD []⟩

end Parts

def listForm : String := "struct variant NotifierConfig::Command with 4 elements"

def ofContents : List Content → Decode CommandService
  | [] => refuse (.wrongLength 0 listForm)
  | [postCommand] => do
      discard (contentText postCommand)
      refuse (.wrongLength 2 listForm)
  | [postCommand, postArgs] => do
      discard (contentText postCommand)
      discard (contentTexts postArgs)
      refuse (.wrongLength 2 listForm)
  | postCommand :: postArgs :: withdrawCommand :: rest => do
      let postCommand ← contentText postCommand
      let postArgs ← contentTexts postArgs
      let withdrawCommand ← contentText withdrawCommand
      let withdrawArgs ← match rest with
        | [] => pure []
        | withdrawArgs :: _ => contentTexts withdrawArgs
      if 1 < rest.length then
        refuse (.wrongLength (rest.length + 3) "4 elements in sequence")
      return ⟨postCommand, postArgs, withdrawCommand, withdrawArgs⟩

def ofContent : Content → Decode CommandService
  | .list items => ofContents items
  | .map entries => do
      let names := Parts.fields.map (·.name)
      let parts ← fields (contentField names) Parts.fields entries Parts.none
      ofCheck parts.complete
  | content => refuse (.wrongType content.found "struct variant NotifierConfig::Command")

end CommandService

namespace NotifierChoice

/-- The types of notifiers. -/
inductive Kind where
  | log
  | command
  deriving DecidableEq, Repr

def tagging : TaggedKind Kind :=
  ⟨"internally tagged enum NotifierConfig", "type", [("log", .log), ("command", .command)]⟩

/-- The depth to which collections may be nested in a notifier.  It stands in the device, which
stands in the description. -/
def depth : Nat := maxDepth - 3

def ofTagged : Tagged Kind → Decode NotifierChoice
  | ⟨.log, .list (first :: rest)⟩ =>
      refuse (.wrongLength (first :: rest).length "0 elements in sequence")
  | ⟨.log, _⟩ => return .log
  | ⟨.command, content⟩ => do return .command (← CommandService.ofContent content)

def decode (around : Surroundings) (path : Path) (node : Node) : Decode NotifierChoice := do
  ofTagged (← tagged around tagging depth path node)

end NotifierChoice

/-! ## Descriptions -/

namespace Config

structure Parts where
  name : Option String
  notifier : Option NotifierChoice
  toggles : Option (List ToggleSpec)

namespace Parts

def none : Parts := ⟨.none, .none, .none⟩

def fields (around : Surroundings) : List (Field (Path × Node) Parts) :=
  [part "name" name (fun parts value => { parts with name := some value })
      (text around "a string"),
    part "notifier" notifier (fun parts value => { parts with notifier := some value })
      (NotifierChoice.decode around),
    part "toggles" toggles (fun parts value => { parts with toggles := some value })
      (list around (ToggleSpec.decode around))]

def complete (parts : Parts) : Except Mismatch Config := do
  let name ← required "name" parts.name
  let toggles ← required "toggles" parts.toggles
  return ⟨name, parts.notifier.getD .log, toggles⟩

end Parts

def decodeDevice (around : Surroundings) : Path → Node → Decode Config :=
  record around "Device" (Parts.fields around) Parts.none Parts.complete

def decode (around : Surroundings) : Path → Node → Decode Config :=
  record around "Config" [part "device" id (fun _ config => some config) (decodeDevice around)]
    none (required "device")

/-- The description that a document holds.  What is wrong with a document as a whole is told only
if everything that was read of it could be decoded. -/
def ofDocument (document : Document) : Except DecodeError Config :=
  match (decode document.surroundings [] document.root).run 0 with
  | .error cause => .error cause
  | .ok (config, _) =>
      match document.failure with
      | some failure => .error (.unreadable failure)
      | none => if document.isLast then .ok config else .error .severalDocuments

end Config

end ModeSwitch
