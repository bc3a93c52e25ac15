import ModeSwitch.Mode
import ModeSwitch.Text.Similarity

/-! The arguments of the command line.

The arguments are read from left to right.  A command ends the options of the program itself and
begins its own.  An option takes its value from behind an equals sign, or from the next argument,
which must not look like an option; a value is examined when the next argument has been
understood, so a later argument that is not understood is reported first.  Behind two dashes every
argument is a value.
-/

namespace ModeSwitch.CommandLine

/-! ## Vocabulary -/

/-- What can be given on the command line. -/
inductive Argument where
  | config
  | interval
  | key
  | state
  | help
  | version
  deriving DecidableEq, Repr

/-- Where arguments are given: to the program itself or to one of its commands. -/
inductive Scope where
  | program
  | list
  | get
  | set
  | watch
  | help
  deriving DecidableEq, Repr

namespace Argument

def name? : Argument → Option String
  | .config => some "config"
  | .interval => some "interval-ms"
  | .help => some "help"
  | .version => some "version"
  | .key | .state => none

def takesValue : Argument → Bool
  | .help | .version => false
  | .config | .interval | .key | .state => true

end Argument

namespace Scope

def commands : List Scope := [.list, .get, .set, .watch, .help]

def word : Scope → String
  | .program => "aries-parts"
  | .list => "list"
  | .get => "get"
  | .set => "set"
  | .watch => "watch"
  | .help => "help"

def words : Scope → List String
  | .program => commands.map word
  | .list | .get | .set | .watch | .help => []

def command? (scope : Scope) (text : String) : Option Scope :=
  if scope.words.contains text then commands.find? (·.word = text) else none

def options : Scope → List Argument
  | .program => [.config, .help, .version]
  | .watch => [.config, .interval, .help]
  | .list | .get | .set => [.config, .help]
  | .help => []

def values : Scope → List Argument
  | .get => [.key]
  | .set => [.key, .state]
  | .program | .list | .watch | .help => []

def option? (scope : Scope) (name : String) : Option Argument :=
  scope.options.find? (·.name? = some name)

/-- The option whose name is most like a text, if one is like it at all. -/
def similarOption? (scope : Scope) (text : String) : Option Argument :=
  ((Text.similarTo text (scope.options.filterMap (·.name?))).getLast?).bind scope.option?

end Scope

/-! ## Faults -/

inductive NumberFault where
  | empty
  | noDigit
  | tooLarge
  deriving DecidableEq, Repr

inductive Hint where
  | similar (argument : Argument)
  /-- The option belongs to a command that follows. -/
  | ofCommand (command : Scope) (argument : Argument)
  deriving DecidableEq, Repr

inductive Fault where
  | noCommand
  | unknownCommand (text : String) (similar : List String)
  /-- A command behind two dashes. -/
  | hiddenCommand (text : String)
  | unknownArgument (text : String) (hint : Option Hint) (mayBeValue : Bool)
  | missingValue (argument : Argument)
  | unexpectedValue (argument : Argument) (text : String)
  | unknownState (text : String)
  | noNumber (argument : Argument) (text : String) (cause : NumberFault)
  | repeated (argument : Argument)
  | missing (arguments : List Argument)
  deriving DecidableEq, Repr

/-- How the usage of a scope is told. -/
inductive UsageForm where
  | general
  /-- By some arguments, and those that must be given; in general if there are none. -/
  | of (arguments : List Argument)
  /-- By an option and the arguments that were given beside it. -/
  | beside (arguments : List Argument)
  deriving DecidableEq, Repr

/-- A fault with the scope in which it was found, and how the usage shown with it is told; some
faults show none. -/
structure Complaint where
  scope : Scope
  fault : Fault
  usage : Option UsageForm
  deriving DecidableEq, Repr

/-- What ends the program before a command is carried out. -/
inductive Stop where
  | help (scope : Scope)
  /-- Nothing was given at all. -/
  | nothing
  | version
  | complaint (complaint : Complaint)
  deriving DecidableEq, Repr

/-! ## Values -/

/-- The least number that is too large. -/
def numberLimit : Nat := Nat.pow 2 64

/-- The number that digits behind those of `value` write. -/
def numberFrom (value : Nat) : List Char → Except NumberFault Nat
  | [] => .ok value
  | c :: rest =>
      if !c.isDigit then .error .noDigit
      else
        let next := value * 10 + (c.toNat - '0'.toNat)
        if numberLimit ≤ next then .error .tooLarge else numberFrom next rest

/-- The number that a text writes, perhaps with a plus sign. -/
def number (text : String) : Except NumberFault Nat :=
  match text.toList with
  | [] => .error .empty
  | ['+'] => .error .noDigit
  | '+' :: digits => numberFrom 0 digits
  | digits => numberFrom 0 digits

def stateWords : List String := [State.enabled.word, State.disabled.word]

def state? (text : String) : Option State :=
  if text = State.enabled.word then some .enabled
  else if text = State.disabled.word then some .disabled
  else none

structure Given where
  /-- The arguments in the order in which they were given. -/
  order : List Argument
  config : Option String
  interval : Option Nat
  key : Option String
  state : Option State
  deriving DecidableEq, Repr

namespace Given

def nothing : Given := ⟨[], none, none, none, none⟩

/-- The value of an argument, if it is one that the argument can have. -/
def accept (given : Given) (argument : Argument) (text : String) : Given × Option Fault :=
  match argument with
  | .config =>
      if text = "" then (given, some (.missingValue .config))
      else ({ given with config := some text }, none)
  | .interval =>
      match number text with
      | .ok n => ({ given with interval := some n }, none)
      | .error cause => (given, some (.noNumber .interval text cause))
  | .key => ({ given with key := some text }, none)
  | .state =>
      match state? text with
      | some state => ({ given with state := some state }, none)
      | none =>
          (given, some (if text = "" then .missingValue .state else .unknownState text))
  | .help | .version => (given, none)

/-- Takes the values of an argument: one, and only once.  What was given is told even if there is a
fault. -/
def take (given : Given) (argument : Argument) : List String → Given × Option Fault
  | [] => (given, some (.missingValue argument))
  | text :: _ =>
      if given.order.contains argument then
        ({ given with order := given.order.erase argument }, some (.repeated argument))
      else ({ given with order := given.order ++ [argument] }).accept argument text

end Given

/-! ## Reading -/

structure Progress where
  given : Given
  /-- An argument whose values have not been examined yet. -/
  pending : Option (Argument × List String)
  /-- Does an option wait for its value? -/
  awaits : Bool
  isBehindDashes : Bool
  /-- The number of values so far that no option has. -/
  values : Nat

namespace Progress

def start : Progress := ⟨.nothing, none, false, false, 0⟩

/-- Examines the pending values. -/
def settle (progress : Progress) : Progress × Option Fault :=
  match progress.pending with
  | none => (progress, none)
  | some (argument, values) =>
      let (given, fault) := progress.given.take argument values
      ({ progress with given, pending := none }, fault)

end Progress

namespace Scope

/-- Ends reading with a fault.  Only some faults show the usage. -/
def refuse {α : Type} (scope : Scope) (fault : Fault) (usage : Option UsageForm) :
    Except Stop α :=
  .error (.complaint ⟨scope, fault, usage⟩)

/-- Ends reading with the fault of a value.  A repeated argument shows the general usage. -/
def refuseValue {α : Type} (scope : Scope) (fault : Fault) : Except Stop α :=
  scope.refuse fault (match fault with
    | .repeated _ => some .general
    | _ => none)

/-- Examines the pending values, which must not be at fault. -/
def settle (scope : Scope) (progress : Progress) : Except Stop Progress :=
  match progress.settle with
  | (progress, none) => .ok progress
  | (_, some fault) => scope.refuseValue fault

def obey (scope : Scope) (progress : Progress) (argument : Argument) : Except Stop Progress := do
  let progress ← scope.settle progress
  match argument with
  | .help => .error (.help scope)
  | .version => .error .version
  | .config | .interval | .key | .state => .ok progress

/-- The option that may have been meant by one that the scope does not have, followed by the
arguments `rest`: one of its own, or one of a command that follows. -/
def hint? (scope : Scope) (name : String) (rest : List String) : Option Hint :=
  match scope.similarOption? name with
  | some argument => some (.similar argument)
  | none =>
      let following := rest.filterMap fun text =>
        (scope.command? text).bind fun command =>
          (command.similarOption? name).map (Hint.ofCommand command)
      following.head?

/-- Ends reading because of an unknown option.  The usage shows what was given, and what may have
been meant. -/
def refuseOption {α : Type} (scope : Scope) (progress : Progress) (name : String)
    (rest : List String) : Except Stop α :=
  let hint := scope.hint? name rest
  let order := progress.settle.1.given.order
  let meant := match hint with
    | some (.similar argument) => if order.contains argument then [] else [argument]
    | _ => []
  scope.refuse (.unknownArgument ("--" ++ name) hint (hint.isNone && scope.values ≠ []))
    (some (.of (order ++ meant)))

/-- Reads an option that is written with two dashes, by its name and the value behind an equals
sign; `rest` are the arguments behind it. -/
def readOption (scope : Scope) (progress : Progress) (name : String) (value : Option String)
    (rest : List String) : Except Stop Progress :=
  match scope.option? name with
  | none => scope.refuseOption progress name rest
  | some argument =>
      if argument.takesValue then do
        let progress ← scope.settle progress
        match value with
        | some text =>
            match progress.given.take argument [text] with
            | (given, none) => return { progress with given, awaits := false }
            | (_, some fault) => scope.refuseValue fault
        | none => return { progress with pending := some (argument, []), awaits := true }
      else
        match value with
        | some text =>
            scope.refuse (.unexpectedValue argument text)
              (some (.beside (progress.given.order ++ [argument])))
        | none => scope.obey progress argument

/-- Reads options that are written with one dash; the first one decides. -/
def readLetter (scope : Scope) (progress : Progress) (letter : Char) : Except Stop Progress :=
  if letter = 'h' then scope.obey progress .help
  else if letter = 'V' && scope = .program then scope.obey progress .version
  else
    scope.refuse (.unknownArgument (String.ofList ['-', letter]) none (scope.values ≠ []))
      (some .general)

/-- Ends reading because of an argument that is no option and for which there is no place. -/
def refuseExtra {α : Type} (scope : Scope) (progress : Progress) (text : String) :
    Except Stop α :=
  if scope.words = [] then scope.refuse (.unknownArgument text none false) (some .general)
  else if progress.isBehindDashes && scope.words.contains text then
    scope.refuse (.hiddenCommand text) (some .general)
  else scope.refuse (.unknownCommand text (Text.similarTo text scope.words)) (some .general)

def readValue (scope : Scope) (progress : Progress) (text : String) : Except Stop Progress :=
  match scope.values[progress.values]? with
  | none => scope.refuseExtra progress text
  | some argument => do
      let progress ← scope.settle progress
      return { progress with
        pending := some (argument, [text]), awaits := false, values := progress.values + 1 }

def helpFor (scope : Scope) : List String → Stop
  | [] => .help scope
  | text :: rest =>
      match scope.command? text with
      | some command => command.helpFor rest
      | none => .complaint ⟨scope, .unknownCommand text [], some .general⟩

inductive Shape where
  | dashes
  | option (name : String) (value : Option String)
  | letters (first : Char)
  | value

/-- How an argument looks: an option begins with two dashes, letters with one. -/
def shapeOf (text : String) : Shape :=
  match text.toList with
  | ['-', '-'] => .dashes
  | '-' :: '-' :: rest =>
      let name := String.ofList (rest.takeWhile (· ≠ '='))
      match rest.dropWhile (· ≠ '=') with
      | [] => .option name none
      | _ :: value => .option name (some (String.ofList value))
  | '-' :: letter :: _ => .letters letter
  | _ => .value

def calls? (scope : Scope) (progress : Progress) (text : String) : Option Scope :=
  if progress.isBehindDashes || progress.awaits then none else scope.command? text

def readOne (scope : Scope) (progress : Progress) (text : String) (rest : List String) :
    Except Stop Progress :=
  if progress.isBehindDashes then scope.readValue progress text
  else
    match shapeOf text with
    | .dashes => .ok { progress with isBehindDashes := true }
    | .option name value => scope.readOption progress name value rest
    | .letters letter => scope.readLetter progress letter
    | .value =>
        match progress.awaits, progress.pending with
        | true, some (argument, _) =>
            .ok { progress with pending := some (argument, [text]), awaits := false }
        | _, _ => scope.readValue progress text

/-- Reads the arguments of a scope, up to a command that ends them: what was given, and the command
with the arguments behind it. -/
def read (scope : Scope) (progress : Progress) :
    List String → Except Stop (Progress × Option (Scope × List String))
  | [] => .ok (progress, none)
  | text :: rest =>
      match scope.calls? progress text with
      | some .help => .error (scope.helpFor rest)
      | some command => .ok (progress, some (command, rest))
      | none =>
          match scope.readOne progress text rest with
          | .error stop => .error stop
          | .ok progress => read scope progress rest

def missing (scope : Scope) (given : Given) : List Argument :=
  scope.values.filter fun argument => !given.order.contains argument

/-- Ends the reading of a scope.  What is not given may be set by the environment; what is told
beside all that is given is the description asked for by the arguments alone. -/
def finish (scope : Scope) (setting : Option String) (progress : Progress) (hasCommand : Bool) :
    Except Stop (Given × Option String) := do
  let progress ← scope.settle progress
  let asked := progress.given.config
  let given ← match setting with
    | none => pure progress.given
    | some text =>
        if progress.given.order.contains .config then pure progress.given
        else
          match progress.given.take .config [text] with
          | (given, none) => pure given
          | (_, some fault) => scope.refuseValue fault
  if scope = .program && !hasCommand then
    if given.order = [] then .error .nothing else scope.refuse .noCommand (some .general)
  else
    let missing := scope.missing given
    if missing ≠ [] then scope.refuse (.missing missing) (some (.of (given.order ++ missing)))
    else return (given, asked)

end Scope

/-! ## Commands -/

/-- A command of the program. -/
inductive Command where
  | list
  | get (key : String)
  | set (key : String) (requested : State)
  /-- Looks again every so many milliseconds. -/
  | watch (interval : Nat)
  deriving DecidableEq, Repr

structure Invocation where
  /-- The path of the description that is asked for. -/
  config : Option String
  command : Command
  deriving DecidableEq, Repr

/-- The interval of a watch if nothing else is said. -/
def defaultInterval : Nat := 2000

/-- The command of a scope with the values that were given. -/
def commandOf (scope : Scope) (given : Given) : Command :=
  match scope with
  | .program | .list | .help => .list
  | .get => .get (given.key.getD "")
  | .set => .set (given.key.getD "") (given.state.getD .disabled)
  | .watch => .watch (given.interval.getD defaultInterval)

/-- Reads the arguments of the program; `setting` is the description that the environment asks for.
One given behind the command comes first, then one given before it, then that of the environment. -/
def Invocation.read (setting : Option String) (arguments : List String) :
    Except Stop Invocation := do
  let (outer, called) ← Scope.program.read .start arguments
  match called with
  | none => do
      let (given, _) ← Scope.program.finish setting outer false
      return ⟨given.config, .list⟩
  | some (scope, rest) => do
      let (inner, _) ← scope.read .start rest
      let (given, askedInside) ← scope.finish setting inner true
      let (_, askedOutside) ← Scope.program.finish setting outer true
      return ⟨(askedInside.or askedOutside).or setting, commandOf scope given⟩

end ModeSwitch.CommandLine
