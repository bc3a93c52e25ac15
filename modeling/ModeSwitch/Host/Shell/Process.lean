import ModeSwitch.Host.Shell.Signal

/-! Processes.

A process begins with what the shell that starts it has, and leaves nothing of that changed but what
all processes share.
-/

namespace ModeSwitch.Host.Shell

namespace Ended

def status : Ended → Nat
  | .exited status => status
  | .killed signal => statusOfSignal signal

end Ended

def statusCount : Nat := 256

/-- Does something until the shell stops, and tells how. -/
def toEnd (act : Act Unit) : Act Ended :=
  tryCatch (do
    act
    return .exited ((← get).status % statusCount)) fun
    | .failed | .exited => return .exited ((← get).status % statusCount)
    | .killed signal => return .killed signal

def State.withShell (state : State) (shell : Interpreter) : State :=
  { state with toInterpreter := shell }

/-- The shell of a new process: signals that it would answer are not answered. -/
def Interpreter.inProcess (shell : Interpreter) (process : Nat) : Interpreter :=
  { shell with
    process
    traps := shell.traps.filter (·.2 = [])
    arrived := []
    pending := [] }

def newProcess : Act Nat := do
  let state ← get
  set { state with nextProcess := state.nextProcess + 1 }
  return state.nextProcess

def within (shell : Interpreter) (act : Act Unit) : Act Ended := do
  let before ← get
  set (before.withShell shell)
  let ended ← toEnd do
    receive
    act
  modify fun state => state.withShell before.toInterpreter
  return ended

def apart (act : Act Unit) : Act Ended := do
  let process ← newProcess
  within ((← get).toInterpreter.inProcess process) act

def tellEnd (ended : Ended) : Act Unit :=
  match ended with
  | .exited _ => return
  | .killed signal =>
      match Signal.words? signal with
      | some words => tell (words ++ ['\n'])
      | none => return

def wait (ended : Ended) : Act Nat := do
  tellEnd ended
  receive
  return ended.status

/-- Does something in a new process, and what it leaves to be done, and tells what that wrote to the
standard output of the process. -/
def capturing (act later : Act Unit) : Act (Octets × Ended) := do
  let process ← newProcess
  let (opened, number) := (← get).addChannel (.stream [])
  set opened
  let shell := (opened.lead standardOutput (some number)).toInterpreter.inProcess process
  let ended ← within shell act
  later
  match (← get).readChannel number with
  | .ok (text, state) =>
      set (state.dropChannel number)
      return (text, ended)
  | .error _ => return ([], ended)

end ModeSwitch.Host.Shell
