import ModeSwitch.Host.Lookup
import ModeSwitch.Host.Shell.Builtin.Variables
import ModeSwitch.Host.Shell.Token

/-! What names of commands stand for, and the builtins that ask for it or change it. -/

namespace ModeSwitch.Host.Shell

/-- What the name of a command stands for. -/
inductive Meaning where
  | function (body : Command)
  | builtin
  /-- A program, which is not looked for yet if its path is given. -/
  | path
  | program (found : Lookup.Found)
  | missing (cause : SystemError)

def pathName : Octets := "PATH".toList

def cutAtColons : Octets → List Octets
  | [] => [[]]
  | c :: rest =>
      if c = ':' then [] :: cutAtColons rest
      else
        match cutAtColons rest with
        | [] => [[c]]
        | part :: later => (c :: part) :: later

namespace State

/-- The directories in which the shell looks for programs; none if there is no list of them. -/
def directories (state : State) : List String :=
  match state.value? pathName with
  | some path => (cutAtColons path).map Octets.text
  | none => []

/-- What the name of a command stands for; functions may be passed over. -/
def meaning (state : State) (name : Octets) (withFunctions : Bool) (directories : List String) :
    Meaning :=
  let text := Octets.text name
  if name.contains '/' then .path
  else
    match if withFunctions then state.functions.lookup name else none with
    | some function => .function function
    | none =>
        if isBuiltin name then .builtin
        else if FileTree.maxName < text.utf8ByteSize then .missing .nameTooLong
        else
          match Lookup.search state.tree state.directory text .noEntry directories with
          | .ok found => .program found
          | .error cause => .missing cause

end State

def runningProblem (cause : SystemError) : String :=
  match cause with
  | .noEntry | .notDirectory => "not found"
  | cause => cause.words

/-- The exit code of a command that cannot be run. -/
def runningStatus (cause : SystemError) : Nat :=
  match cause with
  | .noEntry | .notDirectory | .nameTooLong | .linkLoop => 127
  | _ => 126

namespace Builtin

def aliasText (name text : Octets) : Octets :=
  name ++ '=' :: quoted text

/-- Tells a complaint without the line it is about. -/
def tellPlain (text : Octets) : Act Unit :=
  tell (text ++ ['\n'])

def aliasCommand (arguments : List Octets) : Act Nat := do
  if arguments.isEmpty then
    for (name, text) in (← get).aliases do
      put (aliasText name text ++ ['\n'])
    return 0
  else
    let mut status := 0
    for argument in arguments do
      let (name, text) := match argument with
        | c :: rest =>
            let (name, text) := nameAndValue rest
            (c :: name, text)
        | [] => ([], none)
      let state ← get
      match text with
      | some text =>
          set { state with aliases := (name, text) :: state.aliases.filter (·.1 ≠ name) }
      | none =>
          match state.aliases.lookup argument with
          | some text => put (aliasText argument text ++ ['\n'])
          | none =>
              tellPlain ("alias: ".toList ++ argument ++ " not found".toList)
              status := 1
    return status

def unaliasCommand (arguments : List Octets) : Act Nat := do
  let options ← optionsOf "a" arguments
  if options.has 'a' then
    modify fun state => { state with aliases := [] }
    return 0
  else
    let mut status := 0
    for name in options.rest do
      let state ← get
      if (state.aliases.lookup name).isSome then
        set { state with aliases := state.aliases.filter (·.1 ≠ name) }
      else
        tellPlain ("unalias: ".toList ++ name ++ " not found".toList)
        status := 1
    return status

/-- Tells what a name stands for, in words or as short as can be; the exit code tells whether it stands
for anything. -/
def describe (inWords : Bool) (directories : List String) (name : Octets) : Act Nat := do
  let state ← get
  let tellAs (words : String) (short : Octets) : Act Nat := do
    put ((if inWords then name ++ words.toList else short) ++ ['\n'])
    return 0
  if (Keyword.ofText? name).isSome then tellAs " is a shell keyword" name
  else
    match state.aliases.lookup name with
    | some text =>
        tellAs (" is an alias for " ++ String.ofList text) ("alias ".toList ++ aliasText name text)
    | none =>
        let tellPath (path : String) : Act Nat := do
          put ((if inWords then name ++ " is ".toList else []) ++ Octets.ofText path ++ ['\n'])
          return 0
        let missing : Act Nat := do
          if inWords then put (name ++ ": not found\n".toList)
          return 127
        match state.meaning name true directories with
        | .function _ => tellAs " is a shell function" name
        | .builtin =>
            tellAs (if isSpecialBuiltin name then " is a special shell builtin"
              else " is a shell builtin") name
        | .program found => tellPath found.path
        | .path =>
            match Lookup.atPath state.tree state.directory (Octets.text name) with
            | .ok found => tellPath found.path
            | .error _ => missing
        | .missing _ => missing

/-- Tells what names stand for, and in one exit code what was found of each. -/
def describeAll (inWords : Bool) (directories : List String) : List Octets → Act Nat
  | [] => return 0
  | name :: rest => do
      let status ← describe inWords directories name
      return status ||| (← describeAll inWords directories rest)

def typeCommand (arguments : List Octets) : Act Nat := do
  describeAll true (← get).directories arguments

/-- Tells what a name stands for, as options say; what is to be run is run elsewhere. -/
def commandOptions (arguments : List Octets) : Act Nat := do
  let options ← optionsOf "pvV" arguments
  match options.rest with
  | name :: _ =>
      if options.has 'v' || options.has 'V' then
        let state ← get
        let directories := if options.has 'p' then Lookup.directories else state.directories
        describe (options.has 'V') directories name
      else return 0
  | [] => return 0

def hash (arguments : List Octets) : Act Nat := do
  let options ← optionsOf "r" arguments
  let mut status := 0
  for name in options.rest do
    let state ← get
    match state.meaning name true state.directories with
    | .missing cause =>
        complain (name ++ ": ".toList ++ (runningProblem cause).toList)
        status := 1
    | _ => pure ()
  return status

end Builtin

end ModeSwitch.Host.Shell
