import ModeSwitch.Config
import ModeSwitch.Text.Quoted

/-! Validation of device descriptions.

A description is sound when its keys are distinct and not blank, its mode tokens are distinct words
without blanks, and its notification ids are distinct.  The first toggle at fault is reported, with
the first of its faults in the order of the constructors below; so what follows a faulty toggle
never changes the report.
-/

namespace ModeSwitch

/-- A fault of one toggle, by itself or beside the toggles before it. -/
inductive ConfigFault where
  | blankKey (title : String)
  | usedKey (key : String)
  | badToken (key token : String)
  | equalTokens (key token : String)
  | usedId (id : UInt32) (key : String)
  deriving DecidableEq, Repr

def ConfigFault.message : ConfigFault → String
  | .blankKey title => "Toggle with empty key (title '" ++ title ++ "')"
  | .usedKey key => "Duplicate toggle key '" ++ key ++ "'"
  | .badToken key token => "Toggle '" ++ key ++ "' has an invalid mode token " ++ Text.quote token
  | .equalTokens key token =>
      "Toggle '" ++ key ++ "' uses the same token '" ++ token ++ "' for both modes"
  | .usedId id key =>
      "Notification id " ++ toString id.toNat ++ " of toggle '" ++ key ++ "' is already in use"

/-- May the text be a mode token?  It has characters, and none of them is blank. -/
def isToken (text : String) : Bool :=
  text.toList ≠ [] && text.toList.all fun c => !Text.isBlank c

namespace ToggleSpec

def keyIsUsed (earlier : List ToggleSpec) (spec : ToggleSpec) : Bool :=
  earlier.any (·.key = spec.key)

def usedId? (earlier : List ToggleSpec) (spec : ToggleSpec) : Option UInt32 :=
  match spec.notification with
  | none => none
  | some notification =>
      if earlier.any fun other => other.notification.any (·.id = notification.id) then
        some notification.id
      else none

/-- The first fault of a toggle that follows the toggles `earlier`. -/
def fault? (earlier : List ToggleSpec) (spec : ToggleSpec) : Option ConfigFault :=
  if Text.isBlankText spec.key then some (.blankKey spec.title)
  else if spec.keyIsUsed earlier then some (.usedKey spec.key)
  else if !isToken spec.tokens.enabled then some (.badToken spec.key spec.tokens.enabled)
  else if !isToken spec.tokens.disabled then some (.badToken spec.key spec.tokens.disabled)
  else if spec.tokens.enabled = spec.tokens.disabled then
    some (.equalTokens spec.key spec.tokens.enabled)
  else (spec.usedId? earlier).map (.usedId · spec.key)

end ToggleSpec

namespace Config

def firstFault? (earlier : List ToggleSpec) : List ToggleSpec → Option ConfigFault
  | [] => none
  | spec :: rest => (spec.fault? earlier).or (firstFault? (earlier ++ [spec]) rest)

/-- Reports the first fault of a description, if it has one. -/
def validate (config : Config) : Except ConfigFault Unit :=
  match firstFault? [] config.toggles with
  | some fault => .error fault
  | none => .ok ()

end Config

end ModeSwitch
