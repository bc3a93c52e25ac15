import ModeSwitch.Host.FileTree
import ModeSwitch.Host.Shell.Command
import ModeSwitch.Host.Shell.Number

/-! What a shell knows, and what it works on.

A shell has variables, arguments, options and descriptors of its own.  The files of the host, what
the descriptors lead to, and the processes in the background are shared by all shells of a script: a
command that is run apart changes them, but not the shell around it.
-/

namespace ModeSwitch.Host.Shell

/-! ## Shells -/

structure Variable where
  /-- Its value, if it is set. -/
  value : Option Octets
  isExported : Bool
  isReadOnly : Bool
  deriving DecidableEq, Repr

/-- A jump that is under way. -/
inductive Jump where
  /-- Out of a number of loops. -/
  | leave (loops : Nat)
  /-- To the next round of a loop, out of those inside it. -/
  | next (loops : Nat)
  /-- Out of a function. -/
  | back
  deriving DecidableEq, Repr

/-- What a shell has of its own. -/
structure Interpreter where
  /-- What the shell is called. -/
  name : Octets
  /-- The number of the process that the script began in. -/
  root : Nat
  /-- The number of the shell's own process. -/
  process : Nat
  arguments : List Octets
  bindings : List (Octets × Variable)
  functions : List (Octets × Command)
  aliases : List (Octets × Octets)
  /-- The letters of the options that are set. -/
  options : List Char
  /-- The exit code of the last command. -/
  status : Nat
  /-- The exit code before the action that answers a signal, or the end of the shell. -/
  savedStatus : Option Nat
  /-- The exit code of the last command whose output was used. -/
  outputStatus : Nat
  /-- What is run when a signal arrives, or, for zero, at the end. -/
  traps : List (Nat × Octets)
  /-- The signals that have arrived and are to be answered. -/
  arrived : List Nat
  directory : List String
  /-- What the descriptors lead to. -/
  descriptors : List (Nat × Nat)
  jump : Option Jump
  /-- How many loops are around the command. -/
  loops : Nat
  /-- How many functions are around the command. -/
  callDepth : Nat
  /-- The variables that the functions around the command have hidden, the innermost first. -/
  hidden : List (List (Octets × Option Variable))
  /-- The number of the line that a complaint is about. -/
  line : Nat
  /-- The builtin that a complaint comes from. -/
  speaker : Option Octets
  /-- The number of the argument at which the next option is looked for, from one on. -/
  optionIndex : Nat
  /-- How many letters of the option before it have been read; at zero it is done. -/
  lettersRead : Nat
  /-- What is forbidden for new files. -/
  mask : Nat
  /-- The number of the last process in the background. -/
  lastJob : Option Nat
  /-- What the builtin that is running has for the standard output, the last part first. -/
  pending : List Octets

/-! ## The world -/

inductive Channel where
  /-- What has been written and not been read, the last part first. -/
  | stream (parts : List Octets)
  | file (place : List String) (offset : Nat) (reads writes appends : Bool)
  /-- Always empty, and swallows what is written. -/
  | sink
  /-- Never has room. -/
  | full
  /-- A directory, from which nothing can be read. -/
  | directory (place : List String)
  deriving DecidableEq, Repr

/-- Where a descriptor is to be led. -/
inductive Target where
  | path (opening : Opening) (path : Octets)
  | descriptor (number : Option Nat)
  | document (number : Nat)
  deriving DecidableEq, Repr

/-- A descriptor and where it is to be led. -/
structure Lead where
  source : Nat
  target : Target
  deriving DecidableEq, Repr

inductive Ended where
  | exited (status : Nat)
  | killed (signal : Nat)
  deriving DecidableEq, Repr

/-- A process in the background that has not begun. -/
structure Job where
  /-- The number of the process that started it. -/
  owner : Nat
  shell : Interpreter
  leads : List Lead
  command : Option Command

/-- A process in the background that has ended. -/
structure EndedJob where
  /-- The number of the process that started it. -/
  owner : Nat
  process : Nat
  ended : Ended
  deriving DecidableEq, Repr

/-- What all shells of a script share. -/
structure World where
  tree : FileTree
  channels : List (Nat × Channel)
  nextChannel : Nat
  /-- The documents of the script, by their numbers. -/
  documents : List (Nat × Word)
  nextDocument : Nat
  /-- The processes in the background that have not begun, the first one first. -/
  jobs : List Job
  /-- The processes in the background that have ended. -/
  ended : List EndedJob
  nextProcess : Nat
  /-- The signals that have been sent to processes and have not arrived. -/
  sent : List (Nat × Nat)

/-- A shell and what it works on. -/
structure State extends Interpreter, World

inductive Halt where
  /-- Something was wrong and has been told. -/
  | failed
  | exited
  /-- A signal has ended the process. -/
  | killed (signal : Nat)
  deriving DecidableEq, Repr

/-- What a shell does: it may stop, and leaves a state behind either way. -/
abbrev Act := ExceptT Halt (StateM State)

/-- Does something and then changes the state, also if the shell stops. -/
def ending {α : Type} (change : State → State) (act : Act α) : Act α := do
  let result ← tryCatch act fun halt => do
    modify change
    throw halt
  modify change
  return result

/-! ## Descriptors -/

def standardInput : Nat := 0

def standardOutput : Nat := 1

def errorOutput : Nat := 2

namespace State

def channel? (state : State) (number : Nat) : Option Channel :=
  state.channels.lookup number

def channelAt? (state : State) (descriptor : Nat) : Option Channel :=
  (state.descriptors.lookup descriptor).bind state.channel?

def setChannel (state : State) (number : Nat) (channel : Channel) : State :=
  { state with
    channels := state.channels.map fun entry =>
      if entry.1 = number then (number, channel) else entry }

def addChannel (state : State) (channel : Channel) : State × Nat :=
  ({ state with
      channels := (state.nextChannel, channel) :: state.channels
      nextChannel := state.nextChannel + 1 }, state.nextChannel)

def dropChannel (state : State) (number : Nat) : State :=
  { state with channels := state.channels.filter (·.1 ≠ number) }

/-- The state in which a descriptor leads to a channel, or nowhere. -/
def lead (state : State) (descriptor : Nat) (number : Option Nat) : State :=
  let others := state.descriptors.filter (·.1 ≠ descriptor)
  { state with
    descriptors := match number with
      | some number => (descriptor, number) :: others
      | none => others }

/-- The bytes of a file; none if there is no file. -/
def fileBytes (state : State) (place : List String) : Octets :=
  match state.tree.node? place with
  | some (.file bytes) => Octets.ofBytes bytes
  | some (.program _) => Octets.ofBytes FileTree.programBytes
  | _ => []

def setFile (state : State) (place : List String) (bytes : Octets) : State :=
  { state with tree := state.tree.put place (.file bytes.bytes) }

def overwritten (bytes : Octets) (offset : Nat) (text : Octets) : Octets :=
  let head := bytes.take offset
  head ++ List.replicate (offset - head.length) '\x00' ++ text ++ bytes.drop (offset + text.length)

/-- Writes to a channel, if it takes what is written. -/
def writeChannel (state : State) (number : Nat) (text : Octets) : Except SystemError State :=
  match state.channel? number with
  | some (.stream parts) => .ok (state.setChannel number (.stream (text :: parts)))
  | some (.file place offset reads true appends) =>
      let bytes := state.fileBytes place
      let offset := if appends then bytes.length else offset
      let state := state.setFile place (overwritten bytes offset text)
      .ok (state.setChannel number (.file place (offset + text.length) reads true appends))
  | some (.file _ _ _ false _) | some (.directory _) | none => .error .notOpen
  | some .sink => .ok state
  | some .full => .error .noSpace

/-- Writes to a descriptor.  Nothing can always be written. -/
def write (state : State) (descriptor : Nat) (text : Octets) : Except SystemError State :=
  if text = [] then .ok state
  else
    match state.descriptors.lookup descriptor with
    | some number => state.writeChannel number text
    | none => .error .notOpen

/-- All that can be read from a channel, and the state after it was read. -/
def readChannel (state : State) (number : Nat) : Except SystemError (Octets × State) :=
  match state.channel? number with
  | some (.stream parts) => .ok (parts.reverse.flatten, state.setChannel number (.stream []))
  | some (.file place offset true writes appends) =>
      let bytes := state.fileBytes place
      .ok (bytes.drop offset,
        state.setChannel number (.file place (max offset bytes.length) true writes appends))
  | some .sink | some .full => .ok ([], state)
  | some (.directory _) => .error .isDirectory
  | some (.file _ _ false _ _) | none => .error .notOpen

/-- All that can be read from a descriptor, and the state after it was read. -/
def read (state : State) (descriptor : Nat) : Except SystemError (Octets × State) :=
  match state.descriptors.lookup descriptor with
  | some number => state.readChannel number
  | none => .error .notOpen

/-- The state in which the last bytes that were read from a descriptor were not read after all. -/
def unread (state : State) (descriptor : Nat) (bytes : Octets) : State :=
  match state.descriptors.lookup descriptor with
  | none => state
  | some number =>
      match state.channel? number with
      | some (.stream parts) => state.setChannel number (.stream (parts ++ [bytes]))
      | some (.file place offset true writes appends) =>
          state.setChannel number (.file place (offset - bytes.length) true writes appends)
      | _ => state

/-! ## Variables -/

def entry? (state : State) (name : Octets) : Option Variable :=
  state.bindings.lookup name

/-- The value of a variable, if it is set. -/
def value? (state : State) (name : Octets) : Option Octets :=
  (state.entry? name).bind (·.value)

/-- The state in which a variable is as given, or missing. -/
def setVariable (state : State) (name : Octets) (entry : Option Variable) : State :=
  let others := state.bindings.filter (·.1 ≠ name)
  { state with
    bindings := match entry with
      | some entry => (name, entry) :: others
      | none => others }

def hasOption (state : State) (letter : Char) : Bool :=
  state.options.contains letter

/-- The characters at which values are split where nothing else is said. -/
def usualSeparators : Octets := [' ', '\t', '\n']

def separators (state : State) : Octets :=
  (state.value? "IFS".toList).getD usualSeparators

def environment (state : State) : List (Octets × Octets) :=
  state.bindings.filterMap fun (name, entry) =>
    if entry.isExported then entry.value.map (name, ·) else none

end State

/-! ## Complaints -/

/-- A complaint with what the shell is called and the number of the line in front of it. -/
def complaintText (state : State) (message : Octets) : Octets :=
  let speaker := match state.speaker with
    | some speaker => speaker ++ ": ".toList
    | none => []
  state.name ++ ": ".toList ++ Number.text state.line ++ ": ".toList ++ speaker ++ message ++ ['\n']

/-- Writes to the error output; if that is not possible, nothing is written. -/
def tell (text : Octets) : Act Unit :=
  modify fun state => (state.write errorOutput text).toOption.getD state

def complain (message : Octets) : Act Unit := do
  tell (complaintText (← get) message)

/-- Keeps a text for the standard output until the builtin ends. -/
def put (text : Octets) : Act Unit :=
  modify fun state => { state with pending := text :: state.pending }

/-- Writes what was kept for the standard output, and tells whether that was possible. -/
def flush : Act Bool := do
  let state ← get
  let rest : State := { state with pending := [] }
  match rest.write standardOutput state.pending.reverse.flatten with
  | .ok written =>
      set written
      return true
  | .error _ =>
      set rest
      return false

def setStatus (status : Nat) : Act Unit :=
  modify fun state => { state with status }

def failureStatus : Nat := 2

def fail {α : Type} (message : Octets) : Act α := do
  complain message
  setStatus failureStatus
  throw .failed

def failAbout {α : Type} (subject : Octets) (message : String) : Act α :=
  fail (subject ++ ": ".toList ++ message.toList)

def numberOf (text : Octets) : Act Nat :=
  match Number.count? text with
  | some n => return n
  | none => fail ("Illegal number: ".toList ++ text)

/-! ## Variables that are set -/

def optionIndexName : Octets := "OPTIND".toList

def State.withoutOptionsRead (state : State) : State :=
  { state with optionIndex := 1, lettersRead := 0 }

/-- Changes a variable, unless it may not be changed. -/
def change (name : Octets) (edit : Variable → Variable) : Act Unit := do
  let state ← get
  let old := (state.entry? name).getD ⟨none, false, false⟩
  if old.isReadOnly then failAbout name "is read only"
  else
    if name = optionIndexName then
      let index ← numberOf ((edit old).value.getD [])
      modify fun state =>
        { state.withoutOptionsRead with optionIndex := if index = 0 then 1 else index }
    modify fun state => state.setVariable name (some (edit old))

def assign (name value : Octets) (isExported : Bool) : Act Unit := do
  if !isName name then failAbout name "bad variable name"
  else
    let exportsAll := (← get).hasOption 'a'
    change name fun old =>
      { old with value := some value, isExported := old.isExported || isExported || exportsAll }

/-- Hides a variable until the innermost function ends, or until the command does. -/
def hide (name : Octets) : Act Unit :=
  modify fun state =>
    match state.hidden with
    | [] => state
    | innermost :: rest =>
        if innermost.any (·.1 = name) then state
        else { state with hidden := ((name, state.entry? name) :: innermost) :: rest }

def State.unhide (state : State) : State :=
  match state.hidden with
  | [] => state
  | innermost :: rest =>
      innermost.foldl (fun state (name, old) => state.setVariable name old)
        { state with hidden := rest }

def withHidden {α : Type} (act : Act α) : Act α := do
  modify fun state => { state with hidden := [] :: state.hidden }
  ending State.unhide act

end ModeSwitch.Host.Shell
