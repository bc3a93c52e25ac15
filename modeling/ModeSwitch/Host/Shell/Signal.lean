import ModeSwitch.Host.Shell.State

/-! Signals.

A signal ends the process that it is sent to, unless it is one that is passed over, or one that the
process answers.
-/

namespace ModeSwitch.Host.Shell

structure Signal where
  number : Nat
  name : String
  /-- What is told of a process that the signal has ended. -/
  words : String
  deriving DecidableEq, Repr

namespace Signal

def all : List Signal :=
  [⟨1, "HUP", "Hangup"⟩, ⟨2, "INT", "Interrupt"⟩, ⟨3, "QUIT", "Quit"⟩,
    ⟨4, "ILL", "Illegal instruction"⟩, ⟨5, "TRAP", "Trace/breakpoint trap"⟩,
    ⟨6, "ABRT", "Aborted"⟩, ⟨7, "BUS", "Bus error"⟩, ⟨8, "FPE", "Floating point exception"⟩,
    ⟨9, "KILL", "Killed"⟩, ⟨10, "USR1", "User defined signal 1"⟩,
    ⟨11, "SEGV", "Segmentation fault"⟩, ⟨12, "USR2", "User defined signal 2"⟩,
    ⟨13, "PIPE", "Broken pipe"⟩, ⟨14, "ALRM", "Alarm clock"⟩, ⟨15, "TERM", "Terminated"⟩,
    ⟨16, "STKFLT", "Stack fault"⟩, ⟨17, "CHLD", "Child exited"⟩, ⟨18, "CONT", "Continued"⟩,
    ⟨19, "STOP", "Stopped (signal)"⟩, ⟨20, "TSTP", "Stopped"⟩, ⟨21, "TTIN", "Stopped (tty input)"⟩,
    ⟨22, "TTOU", "Stopped (tty output)"⟩, ⟨23, "URG", "Urgent I/O condition"⟩,
    ⟨24, "XCPU", "CPU time limit exceeded"⟩, ⟨25, "XFSZ", "File size limit exceeded"⟩,
    ⟨26, "VTALRM", "Virtual timer expired"⟩, ⟨27, "PROF", "Profiling timer expired"⟩,
    ⟨28, "WINCH", "Window changed"⟩, ⟨29, "IO", "I/O possible"⟩, ⟨30, "PWR", "Power failure"⟩,
    ⟨31, "SYS", "Bad system call"⟩]

def count : Nat := 65

/-- The name of the end of a shell, where signals are named. -/
def endName : String := "EXIT"

def nameOf (number : Nat) : Octets :=
  if number = 0 then endName.toList
  else
    match all.find? (·.number = number) with
    | some signal => signal.name.toList
    | none => Number.text number

/-- The number of the signal that a text names; the end of a shell may count as one. -/
def ofText? (withEnd : Bool) (text : Octets) : Option Nat :=
  if text ≠ [] && text.all Char.isDigit then (Number.count? text).filter (· < count)
  else
    let upper := String.ofList (text.map Char.toUpper)
    if upper = endName && withEnd then some 0
    else (all.find? (·.name = upper)).map (·.number)

/-- Does the signal do nothing to a process that does not answer it? -/
def isPassedOver (number : Nat) : Bool :=
  number = 17 || number = 18 || number = 23 || number = 28

def kill : Nat := 9

/-- The signal that is sent if none is named. -/
def terminate : Nat := 15

/-- What is told of a process that a signal has ended; of some nothing is. -/
def words? (number : Nat) : Option Octets :=
  if number = 2 || number = 13 then none
  else
    match all.find? (·.number = number) with
    | some signal => some signal.words.toList
    | none => some ("Real-time signal ".toList ++ Number.text (number - 34))

end Signal

def statusOfSignal (number : Nat) : Nat := 128 + number

def receive : Act Unit := do
  let state ← get
  let own := state.sent.filter (·.1 = state.process)
  set { state with sent := state.sent.filter (·.1 ≠ state.process) }
  for (_, number) in own do
    match if number = Signal.kill then none else state.traps.lookup number with
    | some [] => pure ()
    | some _ => modify fun state => { state with arrived := state.arrived ++ [number] }
    | none => if !Signal.isPassedOver number then throw (.killed number)

def State.hasProcess (state : State) (number : Nat) : Bool :=
  state.root ≤ number && number < state.nextProcess && !state.ended.any (·.process = number)

end ModeSwitch.Host.Shell
