import ModeSwitch.Config.Decoding
import ModeSwitch.Config.Validation
import ModeSwitch.Journal

/-! Loading device descriptions.

A description is parsed from a text and then validated, so a loaded one is always sound.  The text
is that of a file, or the embedded one.
-/

namespace ModeSwitch

inductive ParseError where
  | decode (cause : Yaml.DecodeError)
  | fault (cause : ConfigFault)
  deriving DecidableEq, Repr

def ParseError.message : ParseError → String
  | .decode cause => cause.message
  | .fault cause => cause.message

inductive ConfigSource where
  | embedded
  | file (path : AttrPath)
  deriving DecidableEq, Repr

inductive LoadError where
  | unreadable (path : AttrPath) (cause : StoreError)
  | invalid (source : ConfigSource) (cause : ParseError)
  deriving DecidableEq, Repr

namespace LoadError

def chain : LoadError → List String
  | .unreadable path cause => ["Failed to read " ++ path.text, cause.message]
  | .invalid .embedded cause => [cause.message]
  | .invalid (.file path) cause => ["Invalid configuration in " ++ path.text, cause.message]

end LoadError

namespace Config

section Decoder

/-! However a text is decoded, what it holds is validated. -/

variable (decode : String → Except Yaml.DecodeError Config)

/-- The description of a text, by a decoder. -/
def parseBy (text : String) : Except ParseError Config :=
  match decode text with
  | .error cause => .error (.decode cause)
  | .ok config =>
      match config.validate with
      | .error cause => .error (.fault cause)
      | .ok () => .ok config

/-- The description of a text from a source, by a decoder. -/
def parseFrom (source : ConfigSource) (text : String) : Except LoadError Config :=
  (parseBy decode text).mapError (.invalid source)

end Decoder

/-- The description that a text holds, whether valid or not. -/
def ofText (text : String) : Except Yaml.DecodeError Config :=
  ofDocument (.ofText text)

def parse : String → Except ParseError Config :=
  parseBy ofText

/-- The lines of the description that is used if no other is asked for. -/
def embeddedLines : List String :=
  ["device:",
    "  name: \"Aries\"",
    "  notifier:",
    "    type: log",
    "  toggles:",
    "    - key: otg_enable",
    "      title: \"USB OTG\"",
    "      path: /sys/bus/i2c/drivers/fsa9480/7-0025/mode",
    "      enabled_token: OTG",
    "      disabled_token: USB",
    "      notification:",
    "        id: 1",
    "        title: \"USB OTG enabled\"",
    "        body: \"Touch to open device settings\""]

def embeddedText : String :=
  String.join (embeddedLines.map (· ++ "\n"))

def loadingEvent : ConfigSource → Event
  | .embedded => .embeddedConfig
  | .file path => .loadingConfig path

/-- Loads the description of a source, given a decoder and how files are read. -/
def loadBy (decode : String → Except Yaml.DecodeError Config)
    (readFile : AttrPath → Except StoreError String)
    : ConfigSource → Except LoadError Config
  | .embedded => parseFrom decode .embedded embeddedText
  | .file path =>
      match readFile path with
      | .error cause => .error (.unreadable path cause)
      | .ok text => parseFrom decode (.file path) text

def load : (AttrPath → Except StoreError String) → ConfigSource → Except LoadError Config :=
  loadBy ofText

end Config

end ModeSwitch
