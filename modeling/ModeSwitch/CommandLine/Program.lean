import ModeSwitch.CommandLine.Wording
import ModeSwitch.Config.Loading
import ModeSwitch.Device
import ModeSwitch.Listing
import ModeSwitch.Notifier.Services
import ModeSwitch.Store.Files
import ModeSwitch.Watch
import ModeSwitch.Journal.Filter

/-! The program behind the command line.

A call of the program loads a description, builds the settings and carries out one command.  The
command ends in a conclusion: the lines that it shows, an exit code, and why it failed, if it did.
The code tells a change that the driver did not accept from one that could not be made.
-/

namespace ModeSwitch.CommandLine

open Procedure

/-! ## Commands -/

structure Conclusion where
  /-- The lines for the standard output. -/
  lines : List String
  code : Nat
  /-- Why the program failed, from the outermost message to the root cause; nothing if it did not,
  or if the journal says so already. -/
  failure : List String
  deriving DecidableEq, Repr

namespace Conclusion

def success (lines : List String) : Conclusion := ⟨lines, 0, []⟩

def failureCode : Nat := 1

def rejectedCode : Nat := 2

/-- The failure as it is shown.  The lines of a cause are indented. -/
def failureText (conclusion : Conclusion) : String :=
  match conclusion.failure with
  | [] => ""
  | [message] => "Error: " ++ message ++ "\n"
  | message :: causes =>
      let indented (cause : String) := "    " ++ "\n    ".intercalate (cause.splitOn "\n") ++ "\n"
      "Error: " ++ message ++ "\n\nCaused by:\n" ++ String.join (causes.map indented)

def outputText (conclusion : Conclusion) : String :=
  String.join (conclusion.lines.map (· ++ "\n"))

end Conclusion

namespace Command

def listAll (settings : Settings) : Procedure Conclusion := do
  return .success ((← settings.entries).map Entry.line)

def showOne (settings : Settings) (key : String) : Procedure Conclusion :=
  match settings.toggle? key with
  | none =>
      pure ⟨[], Conclusion.failureCode, [ChangeError.message (.unknownToggle key)]⟩
  | some toggle => do
      if !(← toggle.isSupported) then log (.notPresent toggle.path)
      return .success [toggle.describe (← toggle.readMode)]

def request (settings : Settings) (key : String) (requested : State) : Procedure Conclusion := do
  match ← settings.change key requested with
  | .ok outcome =>
      let code := if outcome.accepted then 0 else Conclusion.rejectedCode
      return ⟨[outcome.describe key], code, []⟩
  | .error cause =>
      log (.refused cause)
      return ⟨[], Conclusion.failureCode, []⟩

def beginWatch (settings : Settings) : Procedure Snapshot := do
  log (.watching settings.slots.length settings.name)
  Watch.start settings

/-- Watches until the first tick, and is interrupted before it. -/
def watchBriefly (settings : Settings) : Procedure Conclusion := do
  discard (beginWatch settings)
  Watch.stop
  return .success []

/-- Carries out a command.  A watch is interrupted before its first tick. -/
def carryOut (settings : Settings) : Command → Procedure Conclusion
  | .list => listAll settings
  | .get key => showOne settings key
  | .set key requested => request settings key requested
  | .watch _ => watchBriefly settings

end Command

/-! ## Calls -/

/-- The variable of the environment that says which events are shown. -/
def filterVariable : String := "RUST_LOG"

structure Exit where
  code : Nat
  output : String
  errors : String
  deriving DecidableEq, Repr

/-- How a call ends before a command is carried out. -/
def Stop.exit (environment : Host.Environment) : Stop → Exit
  | .help scope => ⟨0, scope.helpText (environment.get? configVariable), ""⟩
  | .nothing => ⟨2, "", Scope.program.helpText (environment.get? configVariable)⟩
  | .version => ⟨0, Scope.program.word ++ " " ++ versionText ++ "\n", ""⟩
  | .complaint found => ⟨2, "", found.message⟩

namespace Invocation

def source (invocation : Invocation) : ConfigSource :=
  match invocation.config with
  | some path => .file ⟨path⟩
  | none => .embedded

/-- Builds the settings once the description has been loaded, or concludes that it could not be. -/
def prepare (invocation : Invocation) (loaded : Except LoadError Config) :
    Procedure (Except Conclusion Settings) := do
  log (Config.loadingEvent invocation.source)
  match loaded with
  | .error cause => return .error ⟨[], Conclusion.failureCode, cause.chain⟩
  | .ok config => return .ok (← Settings.build config)

/-- What a call does once the description has been loaded, or could not be. -/
def procedure (invocation : Invocation) (loaded : Except LoadError Config) :
    Procedure Conclusion := do
  match ← invocation.prepare loaded with
  | .error conclusion => return conclusion
  | .ok settings => invocation.command.carryOut settings

end Invocation

/-- The notification service of a description on a host; without one there is nothing to notify
of. -/
def serviceOf (environment : Host.Environment) (loaded : Except LoadError Config) :
    Notifier Host.FileTree :=
  match loaded with
  | .ok config => config.notifier.service environment
  | .error _ => .journal

/-- A call of the program over the files of a host: how it ends, and the files after it. -/
def call (environment : Host.Environment) (arguments : List String) (tree : Host.FileTree) :
    Exit × Host.FileTree :=
  match Invocation.read (environment.get? configVariable) arguments with
  | .error stop => (stop.exit environment, tree)
  | .ok invocation =>
      let loaded := Config.load (fun path => tree.readText path.text) invocation.source
      let run := (invocation.procedure loaded).run
        (Device.sharing fileStore (serviceOf environment loaded)) tree .fresh
      let shown := (Filter.ofSetting (environment.get? filterVariable)).lines run.events
      let conclusion := (run.ending.value?).getD ⟨[], Conclusion.failureCode, []⟩
      (⟨conclusion.code, conclusion.outputText,
        String.join (shown.map (· ++ "\n")) ++ conclusion.failureText⟩, run.state)

end ModeSwitch.CommandLine
