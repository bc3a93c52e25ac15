import ModeSwitch.Toggle

/-! Dumps of a toggle.

A dump shows the fields of a toggle as nested records, on one line or indented by four spaces for
each level.  Its outer record ends with dots, since a toggle is also bound to a device.
-/

namespace ModeSwitch

/-- A value as a dump shows it. -/
inductive DumpValue where
  | atom (text : String)
  /-- A name with a single value in parentheses. -/
  | wrapped (name : String) (value : DumpValue)
  /-- A name with labelled values in braces; `open` records end with dots. -/
  | record (name : String) (fields : List (String × DumpValue)) (isOpen : Bool)

namespace DumpValue

mutual

def inline : DumpValue → String
  | .atom text => text
  | .wrapped name value => name ++ "(" ++ inline value ++ ")"
  | .record name fields isOpen =>
      name ++ " \x7b " ++ ", ".intercalate (inlineFields fields ++ if isOpen then [".."] else [])
        ++ " \x7d"

def inlineFields : List (String × DumpValue) → List String
  | [] => []
  | (label, value) :: rest => (label ++ ": " ++ inline value) :: inlineFields rest

end

def indent (depth : Nat) : String :=
  String.ofList (List.replicate (4 * depth) ' ')

mutual

/-- The value over several lines, the first of which stands at the end of a line at `depth`. -/
def pretty (depth : Nat) : DumpValue → String
  | .atom text => text
  | .wrapped name value =>
      name ++ "(\n" ++ indent (depth + 1) ++ pretty (depth + 1) value ++ ",\n" ++ indent depth
        ++ ")"
  | .record name fields isOpen =>
      name ++ " \x7b\n" ++ prettyFields (depth + 1) fields
        ++ (if isOpen then indent (depth + 1) ++ "..\n" else "") ++ indent depth ++ "\x7d"

def prettyFields (depth : Nat) : List (String × DumpValue) → String
  | [] => ""
  | (label, value) :: rest =>
      indent depth ++ label ++ ": " ++ pretty depth value ++ ",\n" ++ prettyFields depth rest

end

end DumpValue

def Notification.dump (n : Notification) : DumpValue :=
  .record "Notification"
    [("id", .atom (toString n.id.toNat)), ("title", .atom (Text.quote n.title)),
     ("body", .atom (Text.quote n.body)), ("tap_target", .atom (Text.quote n.tapTarget))]
    false

def Toggle.dump (toggle : Toggle) : DumpValue :=
  .record "ModeToggle"
    [("name", .atom (Text.quote toggle.name)),
     ("path", .atom (Text.quoteStrictly toggle.path.text)),
     ("tokens", .record "ModeTokens"
        [("enabled", .atom (Text.quote toggle.tokens.enabled)),
         ("disabled", .atom (Text.quote toggle.tokens.disabled))] false),
     ("notification",
        match toggle.notification with
        | some notification => .wrapped "Some" notification.dump
        | none => .atom "None")]
    true

end ModeSwitch
