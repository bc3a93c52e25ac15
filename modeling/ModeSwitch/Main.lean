import ModeSwitch.CommandLine.Program

/-! The program on a real machine.

Requests are answered from the files of the machine, events are written to the standard error as
they occur, and a watch goes on until the program is interrupted.  Everything that is decided is
decided by the procedures that are performed here.
-/

namespace ModeSwitch.CommandLine

/-! ## Files -/

/-- The refusal behind a failure.  One that is not told apart counts as a lack of permission. -/
def refusalOf : IO.Error → SystemError
  | .noFileOrDirectory _ number _ | .invalidArgument _ number _ | .permissionDenied _ number _
  | .resourceExhausted _ number _ | .inappropriateType _ number _ | .noSuchThing _ number _
  | .otherError number _ => (SystemError.ofNumber? number.toNat).getD .denied
  | _ => .denied

/-- Does something with the file at a path.  A path with a NUL character leads nowhere. -/
def attempt {α : Type} (path : AttrPath) (action : IO (Except StoreError α)) :
    IO (Except StoreError α) := do
  if path.text.contains '\x00' then return .error .nulInPath
  try action catch cause => return .error (.system (refusalOf cause))

def probeFile (path : AttrPath) : IO Bool := do
  return (← attempt path do return .ok (← IO.FS.realPath path.text)).isOk

def readFile (path : AttrPath) : IO (Except StoreError String) :=
  attempt path do
    let handle ← IO.FS.Handle.mk path.text .read
    let bytes ← handle.readBinToEnd
    match Text.Utf8.decode? bytes.toList with
    | some text => return .ok text
    | none => return .error .notText

/-- Replaces the contents of the file at a path.  The file is opened in a way that never creates
it. -/
def writeFile (path : AttrPath) (contents : String) : IO (Except StoreError Unit) :=
  attempt path do
    let handle ← IO.FS.Handle.mk path.text .readWrite
    handle.truncate
    handle.putStr contents
    handle.flush
    return .ok ()

/-! ## Procedures -/

/-- Writes an event to the standard error if it is shown. -/
def printEvent (filter : Filter) (event : Event) : IO Unit := do
  if filter.shows event then IO.eprintln event.line

def withoutState {σ ρ : Type} (reaction : Reaction σ ρ) : Reaction Unit ρ :=
  ⟨reaction.reply, reaction.events, ()⟩

def answer (service : Notifier Host.FileTree) : (r : Request) → IO (Reaction Unit r.Reply)
  | .probe path => do return ⟨some (← probeFile path), [], ()⟩
  | .read path => do
      let result ← readFile path
      return ⟨some result, readEvents path result, ()⟩
  | .write path contents => do
      return ⟨some (← writeFile path contents), writeEvents path contents, ()⟩
  | .withdraw id => return withoutState (service.withdraw id .bare)
  | .post notification => return withoutState (service.post notification .bare)

/-- Performs a procedure.  Nothing else runs, so every lock is free. -/
def perform {α : Type} (filter : Filter) (service : Notifier Host.FileTree) : Procedure α → IO α
  | .done value => return value
  | .ask request next => do
      let reaction ← answer service request
      reaction.events.forM (printEvent filter)
      match reaction.reply with
      | some reply => perform filter service (next reply)
      | none => throw (.userError "a request was not answered")
  | .note event next => do
      printEvent filter event
      perform filter service next
  | .acquire _ next => perform filter service (next false)
  | .release _ next => perform filter service next

/-! ## Watching -/

/-- The longest pause that is made at once, in milliseconds. -/
def longestPause : Nat := Nat.pow 2 31

def pause (milliseconds : Nat) : IO Unit := do
  for _ in [0:milliseconds / longestPause] do
    IO.sleep longestPause.toUInt32
  IO.sleep (milliseconds % longestPause).toUInt32

/-- Looks again and again, with a pause of at least one millisecond before each look. -/
partial def watchOn (filter : Filter) (service : Notifier Host.FileTree) (settings : Settings)
    (interval : Nat) (previous : Snapshot) : IO Unit := do
  pause (max interval 1)
  watchOn filter service settings interval (← perform filter service (Watch.tick settings previous))

/-! ## Calls -/

/-- Carries out a call for which the description has been loaded, or could not be. -/
def carryOut (environment : Host.Environment) (filter : Filter) (invocation : Invocation)
    (loaded : Except LoadError Config) : IO Conclusion := do
  let service := serviceOf environment loaded
  match ← perform filter service (invocation.prepare loaded) with
  | .error conclusion => return conclusion
  | .ok settings =>
      match invocation.command with
      | .watch interval =>
          watchOn filter service settings interval
            (← perform filter service (Command.beginWatch settings))
          return .success []
      | command => perform filter service (command.carryOut settings)

def finish (exit : Exit) : IO UInt32 := do
  IO.print exit.output
  IO.eprint exit.errors
  return exit.code.toUInt32

def run (arguments : List String) : IO UInt32 := do
  let mut environment := Host.Environment.usual
  for name in [configVariable, filterVariable] do
    if let some text ← IO.getEnv name then environment := environment.insert name text
  match Invocation.read (environment.get? configVariable) arguments with
  | .error stop => finish (stop.exit environment)
  | .ok invocation =>
      let text ← match invocation.source with
        | .file path => readFile path
        | .embedded => pure (.ok "")
      let loaded := Config.load (fun _ => text) invocation.source
      let conclusion ← carryOut environment (.ofSetting (environment.get? filterVariable))
        invocation loaded
      finish ⟨conclusion.code, conclusion.outputText, conclusion.failureText⟩

end ModeSwitch.CommandLine

def main (arguments : List String) : IO UInt32 :=
  ModeSwitch.CommandLine.run arguments
