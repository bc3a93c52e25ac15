import ModeSwitch.Host.Shell.Builtin.Names
import ModeSwitch.Host.Shell.Format
import ModeSwitch.Host.Shell.Signal

/-! The builtins that change what is around a shell: its directory, and other processes. -/

namespace ModeSwitch.Host.Shell

def pathOf (place : List String) : Octets :=
  if place = [] then ['/'] else place.flatMap fun name => '/' :: Octets.ofText name

namespace Builtin

/-! ## Directories -/

/-- Does the path begin with the present directory, or with one above it? -/
def isRelativeToHere (path : Octets) : Bool :=
  match path.takeWhile (· ≠ '/') with
  | ['.'] | ['.', '.'] => true
  | _ => false

def directoryAt? (state : State) (path : Octets) : Option (List String) :=
  match state.tree.findIn state.directory (Octets.text path) with
  | .ok (place, .directory) => some place
  | _ => none

/-- The first directory with a name in one of some others, and whether it is to be told. -/
def directoryIn? (state : State) (name : Octets) : List Octets → Option (List String × Bool)
  | [] => none
  | directory :: rest =>
      let path := if directory = [] then name else directory ++ '/' :: name
      match directoryAt? state path with
      | some place => some (place, directory ≠ [])
      | none => directoryIn? state name rest

def changeDirectory (arguments : List Octets) : Act Nat := do
  let options ← optionsOf "LP" arguments
  let state ← get
  let (path, isTold) := match options.rest with
    | [] => ((state.value? "HOME".toList).getD [], false)
    | ['-'] :: _ => ((state.value? "OLDPWD".toList).getD [], true)
    | path :: _ => (path, false)
  let found :=
    if path.head? = some '/' || isRelativeToHere path then
      (directoryAt? state path).map fun place => (place, false)
    else
      let path := if path = [] then ['.'] else path
      match directoryIn? state path (cutAtColons ((state.value? "CDPATH".toList).getD [])) with
      | some found => some found
      | none => (directoryAt? state path).map fun place => (place, false)
  match found with
  | none => fail ("can't cd to ".toList ++ path)
  | some (place, isFoundElsewhere) =>
      assign "OLDPWD".toList (pathOf state.directory) false
      modify fun state => { state with directory := place }
      assign "PWD".toList (pathOf place) false
      if isTold || isFoundElsewhere then put (pathOf place ++ ['\n'])
      return 0

def tellDirectory (arguments : List Octets) : Act Nat := do
  discard (optionsOf "LP" arguments)
  put (pathOf (← get).directory ++ ['\n'])
  return 0

def allowed (digit : Nat) : Octets :=
  (if digit / 4 % 2 = 0 then ['r'] else []) ++ (if digit / 2 % 2 = 0 then ['w'] else [])
    ++ (if digit % 2 = 0 then ['x'] else [])

/-- Tells what is forbidden for new files, or sets it by a number in base eight. -/
def mask (arguments : List Octets) : Act Nat := do
  let options ← optionsOf "S" arguments
  match options.rest with
  | [] =>
      let mask := (← get).mask
      let digits := [mask / 512 % 8, mask / 64 % 8, mask / 8 % 8, mask % 8]
      if options.has 'S' then
        let parts := [('u', mask / 64), ('g', mask / 8), ('o', mask)].map fun (who, digit) =>
          who :: '=' :: allowed digit
        put (Octets.joined [','] parts ++ ['\n'])
      else put ((digits.flatMap fun (n : Nat) => Number.text n) ++ ['\n'])
      return 0
  | text :: _ =>
      if text.head?.any Char.isDigit then
        if text.all isOctal then
          modify fun state => { state with mask := (octal text.length 0 text).1 % 512 }
          return 0
        else fail ("Illegal number: ".toList ++ text)
      else if text.all fun c => "ugoarwxXst=+-,".contains c then return 0
      else fail ("Illegal mode: ".toList ++ text)

def limits (arguments : List Octets) : Act Nat := do
  discard (optionsOf "HSatfdscmlpnvwr" arguments)
  put "unlimited\n".toList
  return 0

/-! ## Signals -/

def tellTraps : Act Unit := do
  let traps := (← get).traps.mergeSort fun a b => a.1 ≤ b.1
  for (number, action) in traps do
    put ("trap -- ".toList ++ quoted action ++ ' ' :: Signal.nameOf number ++ ['\n'])

/-- Sets what is run when some signals arrive; without an action, nothing is. -/
def setTraps (action : Option Octets) : (names : List Octets) → Act Nat
  | [] => return 0
  | name :: rest => do
      match Signal.ofText? true name with
      | none =>
          tellPlain ("trap: ".toList ++ name ++ ": bad trap".toList)
          return 1
      | some number =>
          modify fun state =>
            let others := state.traps.filter (·.1 ≠ number)
            { state with
              traps := match action with
                | some action => (number, action) :: others
                | none => others }
          setTraps action rest

def trap (arguments : List Octets) : Act Nat := do
  let options ← optionsOf "" arguments
  match options.rest with
  | [] =>
      tellTraps
      return 0
  | [name] => setTraps none [name]
  | action :: names =>
      if action ≠ [] && action.all Char.isDigit && (Signal.ofText? true action).isSome then
        setTraps none (action :: names)
      else setTraps (if action = ['-'] then none else some action) names

def killUsage : Octets :=
  ("Usage: kill [-s sigspec | -signum | -sigspec] [pid | job]... or\n"
    ++ "kill -l [exitstatus]").toList

def tellSignals : List Octets → Act Nat
  | [] => do
      put ['0', '\n']
      for number in (List.range Signal.count).drop 1 do
        put (Signal.nameOf number ++ ['\n'])
      return 0
  | argument :: _ => do
      let number ← numberOf argument
      let number := if 128 < number then number - 128 else number
      if 0 < number && number < Signal.count then
        put (Signal.nameOf number ++ ['\n'])
        return 0
      else fail ("invalid signal number or exit status: ".toList ++ argument)

/-- Sends a signal to processes; zero only asks whether they are there. -/
def send (signal : Nat) : (processes : List Octets) → Act Nat
  | [] => return 0
  | argument :: rest => do
      let number ← numberOf (if argument.head? = some '-' then argument.tail else argument)
      let state ← get
      let target := if number = 0 then state.process else number
      if state.hasProcess target then
        if signal ≠ 0 then set { state with sent := state.sent ++ [(target, signal)] }
        send signal rest
      else
        complain "No such process\n".toList
        discard (send signal rest)
        return 1

def killCommand (arguments : List Octets) : Act Nat := do
  let usage {α : Type} : Act α := fail killUsage
  let named : Option (Nat × List Octets) := match arguments with
    | ('-' :: name) :: rest => (Signal.ofText? false name).map (·, rest)
    | _ => none
  match named, arguments with
  | _, [] => usage
  | some (_, []), _ => usage
  | some (signal, processes), _ => send signal processes
  | none, _ => do
      let options ← optionsOf "ls:" arguments
      let signal ← match options.given.find? (·.1 = 's') with
        | none => pure none
        | some (_, name) =>
            match Signal.ofText? false name with
            | some signal => pure (some signal)
            | none => fail ("invalid signal number or name: ".toList ++ name)
      if options.has 'l' then
        if signal.isSome then usage else tellSignals options.rest
      else if options.rest.isEmpty then usage
      else send (signal.getD Signal.terminate) options.rest

end Builtin

end ModeSwitch.Host.Shell
