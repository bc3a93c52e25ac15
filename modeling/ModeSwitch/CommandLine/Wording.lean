import ModeSwitch.CommandLine.Arguments
import ModeSwitch.Text.Controls

/-! What the command line says of itself: usages, help, and complaints about arguments. -/

namespace ModeSwitch.CommandLine

def versionText : String := "0.1.0"

def configVariable : String := "ARIES_PARTS_CONFIG"

/-! ## Usage -/

/-- An argument as it is shown: its name and a placeholder for its value. -/
def Argument.shown : Argument → String
  | .config => "--config <CONFIG>"
  | .interval => "--interval-ms <INTERVAL_MS>"
  | .key => "<KEY>"
  | .state => "<STATE>"
  | .help => "--help"
  | .version => "--version"

namespace Scope

def calling (scope : Scope) : String :=
  if scope = .program then scope.word else Scope.program.word ++ " " ++ scope.word

def remainder : Scope → List String
  | .program => ["<COMMAND>"]
  | .list | .get | .set | .watch | .help => []

def generalUsage (scope : Scope) : String :=
  let parts := match scope with
    | .help => ["[COMMAND]..."]
    | _ => "[OPTIONS]" :: scope.values.map Argument.shown ++ scope.remainder
  " ".intercalate (scope.calling :: parts)

/-- How a scope is used with some arguments: options first, then all values that must be given. -/
def usageWith (scope : Scope) (arguments : List Argument) : String :=
  let options := (arguments.filter fun a => a.name?.isSome).map Argument.shown
  " ".intercalate
    (scope.calling :: options ++ scope.values.map Argument.shown ++ scope.remainder)

def group : Scope → List Argument
  | .program => [.config]
  | .get => [.key]
  | .set => [.key, .state]
  | .watch => [.interval]
  | .list | .help => []

/-- The group of a scope as it is shown: its arguments as a choice. -/
def shownGroup (scope : Scope) : String :=
  let name (argument : Argument) : String :=
    if argument.name?.isSome then argument.shown
    else String.ofList (argument.shown.toList.filter fun c => c ≠ '<' && c ≠ '>')
  "<" ++ "|".intercalate (scope.group.map name) ++ ">"

/-- How a scope is used with an option and the arguments that were given beside it.  If one of these
is in the group, the group stands for all of its arguments. -/
def usageBeside (scope : Scope) (arguments : List Argument) : String :=
  if arguments.any scope.group.contains then
    let isApart (argument : Argument) : Bool := !scope.group.contains argument
    let options := (arguments.filter fun a => a.name?.isSome && isApart a).map Argument.shown
    let values := (scope.values.filter isApart).map Argument.shown
    " ".intercalate (scope.calling :: options ++ scope.shownGroup :: values ++ scope.remainder)
  else scope.usageWith arguments

def usage (scope : Scope) : UsageForm → String
  | .general => scope.generalUsage
  | .of arguments => if arguments = [] then scope.generalUsage else scope.usageWith arguments
  | .beside arguments => scope.usageBeside arguments

end Scope

def usageLine (usage : String) : String :=
  "Usage: " ++ usage

/-! ## Help -/

def Scope.about : Scope → String
  | .program => "Hardware mode switches for Aries devices"
  | .list => "List every toggle with its current state"
  | .get => "Show what the driver reports for one toggle"
  | .set => "Switch a toggle on or off"
  | .watch => "Log state changes until interrupted"
  | .help => "Print this message or the help of the given subcommand(s)"

def stateChoices : String :=
  "[possible values: " ++ ", ".intercalate stateWords ++ "]"

def Argument.about (setting : Option String) : Argument → String
  | .config =>
      "Device description to use instead of the built-in one [env: " ++ configVariable ++ "="
        ++ setting.getD "" ++ "]"
  | .interval => "Poll period in milliseconds [default: " ++ toString defaultInterval ++ "]"
  | .key => ""
  | .state => stateChoices
  | .help => "Print help"
  | .version => "Print version"

/-- An option as it is listed: with its letter, or with room for one. -/
def Argument.listed : Argument → String
  | .help => "-h, --help"
  | .version => "-V, --version"
  | .key => "<KEY>"
  | .state => "<STATE>"
  | .config => "    --config <CONFIG>"
  | .interval => "    --interval-ms <INTERVAL_MS>"

def boldMark : String := "\x1b[1m"

/-- Lines with two columns, the left one in bold and as wide as its widest cell.  Further lines of a
cell on the right begin below its first one. -/
def columns (rows : List (String × String)) : List String :=
  let width := rows.foldl (fun n row => max n row.1.length) 0
  let spaces (n : Nat) : String := String.ofList (List.replicate n ' ')
  rows.map fun (left, right) =>
    let margin := String.ofList (left.toList.takeWhile (· = ' '))
    let name := String.ofList (left.toList.dropWhile (· = ' '))
    "  " ++ margin ++ boldMark ++ name ++ spaces (width - left.length) ++ "  "
      ++ ("\n" ++ spaces (width + 4)).intercalate (right.splitOn "\n")

/-- A section of a help text, unless it has no lines. -/
def sectionOf (title : String) (lines : List String) : List String :=
  if lines = [] then [] else "" :: title :: lines

namespace Scope

def valueRows (setting : Option String) : Scope → List (String × String)
  | .help => [("[COMMAND]...", "Print help for the subcommand(s)")]
  | scope => scope.values.map fun a => (a.listed, a.about setting)

/-- The help for a scope, as it is shown where nothing can be bold: a command to a terminal that the
setting holds is left out like the marks, and may go on up to the next of these. -/
def helpText (setting : Option String) (scope : Scope) : String :=
  let commands := if scope = .program then commands else []
  let lines :=
    [scope.about, "", usageLine (scope.usage .general)]
      ++ sectionOf "Commands:" (columns (commands.map fun c => (c.word, c.about)))
      ++ sectionOf "Arguments:" (columns (scope.valueRows setting))
      ++ sectionOf "Options:"
        (columns (scope.options.map fun a => (a.listed, a.about setting)))
  Text.withoutControls (String.join (lines.map (· ++ "\n")))

end Scope

/-! ## Complaints -/

def NumberFault.words : NumberFault → String
  | .empty => "cannot parse integer from empty string"
  | .noDigit => "invalid digit found in string"
  | .tooLarge => "number too large to fit in target type"

/-- The values that an argument can have, on a line of their own, if they can be listed. -/
def Argument.choices : Argument → String
  | .state => "\n  " ++ stateChoices
  | .config | .interval | .key | .help | .version => ""

def apostrophes (text : String) : String :=
  "'" ++ Text.withoutControls text ++ "'"

namespace Fault

def words : Fault → String
  | .noCommand =>
      apostrophes Scope.program.word ++ " requires a subcommand but one was not provided\n"
        ++ "  [subcommands: " ++ ", ".intercalate Scope.program.words ++ "]"
  | .unknownCommand text _ => "unrecognized subcommand " ++ apostrophes text
  | .hiddenCommand text | .unknownArgument text _ _ =>
      "unexpected argument " ++ apostrophes text ++ " found"
  | .missingValue argument =>
      "a value is required for " ++ apostrophes argument.shown ++ " but none was supplied"
        ++ argument.choices
  | .unexpectedValue argument text =>
      "unexpected value " ++ apostrophes text ++ " for " ++ apostrophes argument.shown
        ++ " found; no more were expected"
  | .unknownState text =>
      "invalid value " ++ apostrophes text ++ " for " ++ apostrophes Argument.state.shown
        ++ Argument.state.choices
  | .noNumber argument text cause =>
      "invalid value " ++ apostrophes text ++ " for " ++ apostrophes argument.shown ++ ": "
        ++ cause.words
  | .repeated argument =>
      "the argument " ++ apostrophes argument.shown ++ " cannot be used multiple times"
  | .missing arguments =>
      "the following required arguments were not provided:"
        ++ String.join (arguments.map fun a => "\n  " ++ a.shown)

def dashed (argument : Argument) : String :=
  "--" ++ argument.name?.getD ""

def tips : Fault → List String
  | .unknownCommand _ [] => []
  | .unknownCommand _ [similar] => ["a similar subcommand exists: " ++ apostrophes similar]
  | .unknownCommand _ similar =>
      ["some similar subcommands exist: " ++ ", ".intercalate (similar.map apostrophes)]
  | .hiddenCommand text =>
      ["subcommand " ++ apostrophes text ++ " exists; to use it, remove the '--' before it"]
  | .unknownArgument text hint mayBeValue =>
      let hints := match hint with
        | some (.similar argument) =>
            ["a similar argument exists: " ++ apostrophes (dashed argument)]
        | some (.ofCommand command argument) =>
            [apostrophes (command.word ++ " " ++ dashed argument) ++ " exists"]
        | none => []
      let value := if mayBeValue then
          ["to pass " ++ apostrophes text ++ " as a value, use " ++ apostrophes ("-- " ++ text)]
        else []
      hints ++ value
  | .unknownState text =>
      match (Text.similarTo text stateWords).getLast? with
      | some similar => ["a similar value exists: " ++ apostrophes similar]
      | none => []
  | _ => []

end Fault

/-- The tips as lines below a blank one, if there are any. -/
def tipLines (tips : List String) : String :=
  if tips = [] then "" else "\n" ++ String.join (tips.map ("\n  tip: " ++ ·))

/-- Where more can be learned.  The command for help has no option for it. -/
def Scope.pointer : Scope → String
  | .help => ""
  | .program | .list | .get | .set | .watch => "\n\nFor more information, try '--help'."

def Complaint.message (complaint : Complaint) : String :=
  let usage := match complaint.usage with
    | some form => "\n\n" ++ usageLine (complaint.scope.usage form)
    | none => ""
  "error: " ++ complaint.fault.words ++ tipLines complaint.fault.tips ++ usage
    ++ complaint.scope.pointer ++ "\n"

end ModeSwitch.CommandLine
