import ModeSwitch.Failure
import ModeSwitch.Mode
import ModeSwitch.Notification
import ModeSwitch.Text.Quoted

/-! The journal.

Everything the program reports about its own work is an event: what happened, not a text.  An
event knows its severity and the part of the program it comes from, and one function words it.
-/

namespace ModeSwitch

/-- How serious an event is, from the most to the least serious. -/
inductive Level where
  | error
  | warning
  | info
  | debug
  deriving DecidableEq, Repr

namespace Level

/-- The rank of a severity; the more serious, the lower. -/
def rank : Level → Nat
  | .error => 0
  | .warning => 1
  | .info => 2
  | .debug => 3

def label : Level → String
  | .error => "ERROR"
  | .warning => "WARN"
  | .info => "INFO"
  | .debug => "DEBUG"

end Level

inductive Origin where
  | commandLine
  | config
  | settings
  | toggle
  | notifier
  | attribute
  | watch
  deriving DecidableEq, Repr

/-- Something that happened. -/
inductive Event where
  /-- The embedded description is used. -/
  | embeddedConfig
  | loadingConfig (path : AttrPath)
  | settingsBuilt (device : String) (toggles : Nat)
  | changingUnsupported (key : String)
  | changed (key : String) (observed : State)
  | stayed (key : String) (observed requested : State)
  | unrecognizedMode (toggle raw : String)
  | readFailed (toggle : String) (path : AttrPath) (cause : StoreError)
  | observed (toggle : String) (state : State)
  /-- A write begins; the line is the one that goes to the attribute. -/
  | setting (toggle : String) (requested : State) (line : String) (path : AttrPath)
  | writeFailed (toggle : String) (cause : StoreError)
  /-- The driver ended in another mode than requested. -/
  | rejected (toggle : String) (requested observed : State)
  | withdrawFailed (toggle : String) (cause : NotifyError)
  | postFailed (toggle : String) (cause : NotifyError)
  /-- A notification that goes to the journal only. -/
  | posted (notification : Notification)
  | withdrawn (id : UInt32)
  | executing (command : String) (arguments : List String)
  | attributeRead (value : String) (path : AttrPath)
  | attributeWritten (contents : String) (path : AttrPath)
  /-- A toggle's state at the start of a watch. -/
  | watched (key : String) (state : State)
  | watchUnchanged
  | watchDisappeared (key : String)
  | watchAppeared (key : String) (state : State)
  | watchChanged (key : String) (before after : State)
  | watchStopping
  | notPresent (path : AttrPath)
  | refused (cause : ChangeError)
  | watching (toggles : Nat) (device : String)
  deriving DecidableEq, Repr

namespace Event

def level : Event → Level
  | .writeFailed .. | .refused .. => .error
  | .stayed .. | .rejected .. | .withdrawFailed .. | .postFailed .. | .watchDisappeared ..
  | .notPresent .. => .warning
  | .embeddedConfig | .loadingConfig .. | .settingsBuilt .. | .changed .. | .setting ..
  | .posted .. | .watched .. | .watchAppeared .. | .watchChanged .. | .watchStopping
  | .watching .. => .info
  | .changingUnsupported .. | .unrecognizedMode .. | .readFailed .. | .observed ..
  | .withdrawn .. | .executing .. | .attributeRead .. | .attributeWritten ..
  | .watchUnchanged => .debug

def origin : Event → Origin
  | .embeddedConfig | .loadingConfig .. => .config
  | .settingsBuilt .. | .changingUnsupported .. | .changed .. | .stayed .. => .settings
  | .unrecognizedMode .. | .readFailed .. | .observed .. | .setting .. | .writeFailed ..
  | .rejected .. | .withdrawFailed .. | .postFailed .. => .toggle
  | .posted .. | .withdrawn .. | .executing .. => .notifier
  | .attributeRead .. | .attributeWritten .. => .attribute
  | .watched .. | .watchUnchanged | .watchDisappeared .. | .watchAppeared .. | .watchChanged ..
  | .watchStopping => .watch
  | .notPresent .. | .refused .. | .watching .. => .commandLine

/-- The event in words. -/
def message : Event → String
  | .embeddedConfig => "Using embedded configuration"
  | .loadingConfig path => "Loading configuration from " ++ path.text
  | .settingsBuilt device toggles =>
      "Device settings for '" ++ device ++ "' with " ++ toString toggles ++ " toggle(s)"
  | .changingUnsupported key => "Changing unsupported toggle '" ++ key ++ "'"
  | .changed key found => "Toggle '" ++ key ++ "' is now " ++ found.word
  | .stayed key found requested =>
      "Toggle '" ++ key ++ "' stayed " ++ found.word ++ " (requested " ++ requested.word ++ ")"
  | .unrecognizedMode toggle raw =>
      "Unrecognized mode " ++ Text.quote raw ++ " for '" ++ toggle ++ "'"
  | .readFailed toggle path cause =>
      "Failed to read mode for '" ++ toggle ++ "' from " ++ path.text ++ ": " ++ cause.message
  | .observed toggle state => "Current state for '" ++ toggle ++ "': " ++ state.name
  | .setting toggle requested line path =>
      "Setting '" ++ toggle ++ "' to " ++ requested.word ++ " (" ++ Text.quote (Text.trimEnd line)
        ++ " -> " ++ path.text ++ ")"
  | .writeFailed toggle cause =>
      "Failed to write mode for '" ++ toggle ++ "': " ++ cause.message
  | .rejected toggle requested found =>
      "Driver rejected mode change for '" ++ toggle ++ "': requested " ++ requested.word
        ++ ", observed " ++ found.word
  | .withdrawFailed toggle cause =>
      "Failed to withdraw notification for '" ++ toggle ++ "': " ++ cause.message
  | .postFailed toggle cause =>
      "Failed to post notification for '" ++ toggle ++ "': " ++ cause.message
  | .posted n =>
      "NOTIFY [" ++ toString n.id.toNat ++ "]: " ++ n.title ++ " - " ++ n.body ++ " (tap: "
        ++ n.tapTarget ++ ")"
  | .withdrawn id => "NOTIFY [" ++ toString id.toNat ++ "]: withdrawn"
  | .executing command arguments =>
      "Executing notifier command: " ++ command ++ " " ++ Text.quoteList arguments
  | .attributeRead value path => "Read " ++ Text.quote value ++ " from " ++ path.text
  | .attributeWritten contents path => "Writing " ++ Text.quote contents ++ " to " ++ path.text
  | .watched key state => "WATCH: '" ++ key ++ "' is " ++ state.word
  | .watchUnchanged => "WATCH: no changes"
  | .watchDisappeared key => "WATCH: '" ++ key ++ "' disappeared"
  | .watchAppeared key state => "WATCH: '" ++ key ++ "' appeared (" ++ state.word ++ ")"
  | .watchChanged key before after =>
      "WATCH: '" ++ key ++ "' changed " ++ before.word ++ " -> " ++ after.word
  | .watchStopping => "WATCH: stopping"
  | .notPresent path => path.text ++ " is not present on this device"
  | .refused cause => cause.message
  | .watching toggles device => "Watching " ++ toString toggles ++ " toggle(s) on " ++ device

def isAtLeast (least : Level) (event : Event) : Bool :=
  event.level.rank ≤ least.rank

end Event

end ModeSwitch
