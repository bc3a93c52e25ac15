import ModeSwitch.Host.Lookup

/-! The environment of a program.

A program finds variables with texts, and passes them on to the programs that it starts.
-/

namespace ModeSwitch.Host

structure Environment where
  bindings : List (String × String)
  deriving DecidableEq, Repr

namespace Environment

/-- The text of a variable, if there is such a variable. -/
def get? (environment : Environment) (name : String) : Option String :=
  environment.bindings.lookup name

def erase (environment : Environment) (name : String) : Environment :=
  ⟨environment.bindings.filter (·.1 ≠ name)⟩

def insert (environment : Environment) (name text : String) : Environment :=
  ⟨(environment.erase name).bindings ++ [(name, text)]⟩

def pathVariable : String := "PATH"

/-- The variables that every program finds unless it is told otherwise. -/
def usual : Environment :=
  ⟨[("HOME", "/root"), (pathVariable, ":".intercalate Lookup.directories)]⟩

/-- The directories in which programs are looked for if no variable names any. -/
def plainDirectories : List String := ["/bin", "/usr/bin"]

def directories (environment : Environment) : List String :=
  match environment.get? pathVariable with
  | some path => path.splitOn ":"
  | none => plainDirectories

end Environment

end ModeSwitch.Host
