import ModeSwitch.Config
import ModeSwitch.Device
import ModeSwitch.Host.Program
import ModeSwitch.Notifier.Template

/-! Notification services.

The recorder keeps the calls it receives and can be told to fail them all; the journal service
writes them to the journal only; a command service runs an external program for each call, which may
change the files of the host.
-/

namespace ModeSwitch

/-- A service that keeps the calls it receives. -/
structure Recorder where
  failing : Bool
  /-- The calls in order, failed ones included. -/
  calls : List NotifierCall
  deriving DecidableEq, Repr

namespace Recorder

def fresh (failing : Bool) : Recorder := ⟨failing, []⟩

/-- Keeps a call, and then answers it. -/
def receive (call : NotifierCall) (recorder : Recorder) :
    Reaction Recorder (Except NotifyError Unit) :=
  let answer := if recorder.failing then .error .unavailable else .ok ()
  ⟨some answer, [], { recorder with calls := recorder.calls ++ [call] }⟩

def service : Notifier Recorder where
  withdraw id := receive (.withdraw id)
  post notification := receive (.post notification)

end Recorder

/-- The service that writes to the journal only; it never fails, and it changes no state. -/
def Notifier.journal {ν : Type} : Notifier ν where
  withdraw id state := ⟨some (.ok ()), [.withdrawn id], state⟩
  post notification state := ⟨some (.ok ()), [.posted notification], state⟩

namespace CommandService

/-- Runs a program and turns a failure into one of the service.  The complaint of the program
loses the blanks at both ends. -/
def runProgram (environment : Host.Environment) (command : String) (arguments : List String)
    (tree : Host.FileTree) : Reaction Host.FileTree (Except NotifyError Unit) :=
  let events := [.executing command arguments]
  match Host.Program.run environment tree command arguments with
  | .error cause => ⟨some (.error (.notStarted command cause)), events, tree⟩
  | .ok exit =>
      let answer :=
        if exit.code = some 0 then .ok ()
        else .error (.exited command exit.code (Text.trim (Text.Utf8.decodeLenient exit.errors)))
      ⟨some answer, events, exit.tree⟩

/-- The programs of a command service as a device sees them, given how a program is run. -/
def serviceBy {ν : Type} (run : String → List String → ν → Reaction ν (Except NotifyError Unit))
    (commands : CommandService) : Notifier ν where
  withdraw id :=
    run commands.withdrawCommand (commands.withdrawArgs.map (Template.forWithdrawal id))
  post notification :=
    run commands.postCommand (commands.postArgs.map (Template.forPost notification))

/-- The programs of a command service if they are among the files of a host. -/
def service (environment : Host.Environment) : CommandService → Notifier Host.FileTree :=
  serviceBy (runProgram environment)

end CommandService

def NotifierChoice.service (environment : Host.Environment) :
    NotifierChoice → Notifier Host.FileTree
  | .log => .journal
  | .command commands => commands.service environment

end ModeSwitch
