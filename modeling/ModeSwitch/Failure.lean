import ModeSwitch.AttrPath

/-! What can go wrong.

Each failure is a cause; its wording is given by one function.  The only failure of a change that
its caller sees is an unknown toggle or a write that did not go through: what a notification
service answers never reaches the caller.
-/

namespace ModeSwitch

/-- A refusal of the operating system. -/
inductive SystemError where
  | noEntry
  | noDevice
  | argumentsTooLong
  | notOpen
  | denied
  | fileExists
  | notDirectory
  | isDirectory
  | noSpace
  | nameTooLong
  | linkLoop
  deriving DecidableEq, Repr

namespace SystemError

def number : SystemError → Nat
  | .noEntry => 2
  | .noDevice => 6
  | .argumentsTooLong => 7
  | .notOpen => 9
  | .denied => 13
  | .fileExists => 17
  | .notDirectory => 20
  | .isDirectory => 21
  | .noSpace => 28
  | .nameTooLong => 36
  | .linkLoop => 40

def words : SystemError → String
  | .noEntry => "No such file or directory"
  | .noDevice => "No such device or address"
  | .argumentsTooLong => "Argument list too long"
  | .notOpen => "Bad file descriptor"
  | .denied => "Permission denied"
  | .fileExists => "File exists"
  | .notDirectory => "Not a directory"
  | .isDirectory => "Is a directory"
  | .noSpace => "No space left on device"
  | .nameTooLong => "File name too long"
  | .linkLoop => "Too many levels of symbolic links"

def all : List SystemError :=
  [.noEntry, .noDevice, .argumentsTooLong, .notOpen, .denied, .fileExists, .notDirectory,
    .isDirectory, .noSpace, .nameTooLong, .linkLoop]

def ofNumber? (number : Nat) : Option SystemError :=
  all.find? (·.number = number)

def message (e : SystemError) : String :=
  e.words ++ " (os error " ++ toString e.number ++ ")"

end SystemError

/-- Why an attribute could not be read or written. -/
inductive StoreError where
  /-- The store holds no such attribute. -/
  | noAttribute
  /-- The store refuses every read. -/
  | readDenied
  /-- The operating system refuses. -/
  | system (cause : SystemError)
  /-- The contents are no text. -/
  | notText
  /-- The path holds a NUL character. -/
  | nulInPath
  deriving DecidableEq, Repr

def StoreError.message : StoreError → String
  | .noAttribute => "no such attribute"
  | .readDenied => "read denied"
  | .system cause => cause.message
  | .notText => "stream did not contain valid UTF-8"
  | .nulInPath => "file name contained an unexpected NUL byte"

/-- Why a program could not be started. -/
inductive LaunchError where
  | system (cause : SystemError)
  /-- The command or an argument holds a NUL character. -/
  | nulInArgument
  deriving DecidableEq, Repr

def LaunchError.message : LaunchError → String
  | .system cause => cause.message
  | .nulInArgument => "nul byte found in provided data"

/-- Why a notification service did not do what it was asked. -/
inductive NotifyError where
  /-- The service does not answer. -/
  | unavailable
  /-- The program of the service could not be started. -/
  | notStarted (command : String) (cause : LaunchError)
  /-- The program of the service ended with a failure; no code means that a signal ended it. -/
  | exited (command : String) (code : Option Nat) (complaint : String)
  deriving DecidableEq, Repr

namespace NotifyError

def chain : NotifyError → List String
  | .unavailable => ["notification service unavailable"]
  | .notStarted command cause => ["Failed to execute " ++ command, cause.message]
  | .exited command code complaint =>
      let number := match code with
        | some n => toString n
        | none => "-1"
      [command ++ " exited with code " ++ number ++ ": " ++ complaint]

def message (e : NotifyError) : String :=
  ": ".intercalate e.chain

end NotifyError

/-- A requested mode could not be written. -/
structure WriteFailure where
  path : AttrPath
  cause : StoreError
  deriving DecidableEq, Repr

def WriteFailure.message (e : WriteFailure) : String :=
  "failed to write mode to " ++ e.path.text ++ ": " ++ e.cause.message

/-- Why a change asked of the settings was not made. -/
inductive ChangeError where
  | unknownToggle (key : String)
  | notWritten (failure : WriteFailure)
  deriving DecidableEq, Repr

def ChangeError.message : ChangeError → String
  | .unknownToggle key => "unknown toggle '" ++ key ++ "'"
  | .notWritten failure => failure.message

end ModeSwitch
