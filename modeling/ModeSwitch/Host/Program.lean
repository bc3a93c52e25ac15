import ModeSwitch.Host.Environment
import ModeSwitch.Host.Shell.Execution

/-! Programs of the host.

A program is started with arguments, reads nothing, and leaves behind an exit code, unless a signal
ended it, what it wrote to its error output, and the files as they are then.
-/

namespace ModeSwitch.Host.Program

structure Exit where
  /-- The exit code; there is none if a signal has ended the program. -/
  code : Option Nat
  /-- The bytes on the error output. -/
  errors : List UInt8
  tree : FileTree

def maxArgument : Nat := 131072

def maxArguments : Nat := 2097152

def pointerSize : Nat := 8

def isTooLong (environment : Environment) (arguments : List String) : Bool :=
  let texts := arguments ++ environment.bindings.map fun (name, text) => name ++ "=" ++ text
  let total := (texts.map fun text => text.utf8ByteSize + 1 + pointerSize).foldl (· + ·) 0
  texts.any (maxArgument ≤ ·.utf8ByteSize) || maxArguments < total

def depth : Nat := 100000

def firstProcess : Nat := 4242

/-- What a program finds when it starts: nothing to read, and two outputs. -/
def world (tree : FileTree) : Shell.World where
  tree
  channels :=
    [(Shell.standardInput, .sink), (Shell.standardOutput, .stream []),
      (Shell.errorOutput, .stream [])]
  nextChannel := 3
  documents := []
  nextDocument := 0
  jobs := []
  ended := []
  nextProcess := firstProcess + 1
  sent := []

/-- Runs a program that has been found, as a process of its own, and what it leaves in the
background. -/
def process (program : String) (command : Shell.Octets) (arguments : List Shell.Octets) :
    Shell.Act Shell.Ended := do
  let ended ← Shell.toEnd (Shell.runProgram depth program command arguments)
  Shell.runJobs depth fun _ => true
  return ended

def run (environment : Environment) (tree : FileTree) (command : String)
    (arguments : List String) : Except LaunchError Exit :=
  if (command :: arguments).any (·.contains '\x00') then .error .nulInArgument
  else
    match Lookup.program tree FileTree.workingDirectory environment.directories command with
    | .error cause => .error (.system cause)
    | .ok found =>
        if isTooLong environment (command :: arguments) then .error (.system .argumentsTooLong)
        else
          let name := Shell.Octets.ofText command
          let own := [Shell.standardInput, Shell.standardOutput, Shell.errorOutput]
          let shell := Shell.freshShell name firstProcess FileTree.workingDirectory
            (environment.bindings.map fun (name, text) =>
              (Shell.Octets.ofText name, Shell.Octets.ofText text))
            (own.map fun n => (n, n))
          let act := process found.program name (arguments.map Shell.Octets.ofText)
          let (ended, state) := act.run.run { toInterpreter := shell, toWorld := world tree }
          let errors := match state.readChannel Shell.errorOutput with
            | .ok (text, _) => text.bytes
            | .error _ => []
          let code := match ended with
            | .ok (.exited status) => some status
            | .ok (.killed _) => none
            | .error _ => some state.status
          .ok ⟨code, errors, state.tree⟩

end ModeSwitch.Host.Program
