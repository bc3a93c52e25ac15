import ModeSwitch.Host.Environment
import ModeSwitch.Host.Shell.Builtin.Surroundings
import ModeSwitch.Host.Shell.Builtin.Variables
import ModeSwitch.Host.Shell.Tools.Given

/-! Programs that tell what other programs find when they start, and that change it for one of them. -/

namespace ModeSwitch.Host.Shell.Tools

def printenv : Tool :=
  withOptions ⟨"0", [("null", '0')], 2⟩ fun name given => do
    let environment := (← get).environment
    let lineEnd := if given.has '0' then ['\x00'] else ['\n']
    if given.operands.isEmpty then
      writeOut name (environment.flatMap fun (key, value) => key ++ '=' :: value ++ lineEnd)
    else
      let found := given.operands.map fun key => environment.lookup key
      let status ← writeOut name ((found.filterMap id).flatMap (· ++ lineEnd))
      return if found.all (·.isSome) then status else 1

def pwd : Tool :=
  withOptions ⟨"LP", [("logical", 'L'), ("physical", 'P')], 1⟩ fun name given => do
    if !given.operands.isEmpty then
      discard (complainAs name "ignoring non-option arguments")
    writeOut name (pathOf (← get).directory ++ ['\n'])

/-! ## Changed surroundings -/

def cutAssignments : List Octets → List (Octets × Octets) × List Octets
  | [] => ([], [])
  | argument :: rest =>
      match Builtin.nameAndValue argument with
      | (name, some value) =>
          let (assignments, rest) := cutAssignments rest
          ((name, value) :: assignments, rest)
      | (_, none) => ([], argument :: rest)

def surroundingOptions : Known :=
  ⟨"iu:0C:v", [("ignore-environment", 'i'), ("unset", 'u'), ("null", '0'), ("chdir", 'C'),
    ("debug", 'v')], 125⟩

/-- The exit code of a call that changes the surroundings of a program if it cannot do so. -/
def notChangedStatus : Nat := 125

def isVariableName (name : Octets) : Bool :=
  name ≠ [] && !name.contains '='

def searchDirectories (state : State) : List String :=
  match state.environment.lookup Environment.pathVariable.toList with
  | some path => (Octets.text path).splitOn ":"
  | none => Environment.plainDirectories

/-- Changes the surroundings as the arguments say, and gives the command to run in them; without one,
tells the variables and gives an exit code. -/
def changeSurroundings (name : Octets) (arguments : List Octets) :
    Act (Except Nat (List Octets)) := do
  let stop (act : Act Nat) : Act (Except Nat (List Octets)) := do
    discard act
    return .error notChangedStatus
  match Given.read surroundingOptions false (arguments.length + 1) arguments with
  | .error problem => stop (misused name problem)
  | .ok given =>
      let isDash := given.operands.head? = some ['-']
      let (assignments, command) :=
        cutAssignments (if isDash then given.operands.drop 1 else given.operands)
      let unset := (given.options.filter (·.1 = 'u')).map (·.2)
      if given.has Given.helpLetter then return .error 0
      else if given.has '0' && !command.isEmpty then
        stop (misused name "cannot specify --null (-0) with command")
      else if given.has 'C' && command.isEmpty then
        stop (misused name "must specify command with --chdir (-C)")
      else
        let isEmpty := isDash || given.has 'i'
        match if isEmpty then none else unset.find? (!isVariableName ·) with
        | some wrong =>
            stop (complainAs name ("cannot unset " ++ named wrong ++ ": Invalid argument"))
        | none =>
            modify fun state =>
              { state with
                bindings :=
                  if isEmpty then []
                  else state.bindings.filter fun binding => !unset.contains binding.1 }
            for (variableName, value) in assignments do
              modify (·.setVariable variableName (some ⟨some value, true, false⟩))
            let state ← get
            match command, given.argument? 'C' with
            | [], _ =>
                let lineEnd := if given.has '0' then ['\x00'] else ['\n']
                let status ← writeOut name
                  (state.environment.flatMap fun (key, value) => key ++ '=' :: value ++ lineEnd)
                return .error status
            | command, none => return .ok command
            | command, some path =>
                match state.tree.findIn state.directory (Octets.text path) with
                | .ok (place, .directory) =>
                    set { state with directory := place }
                    return .ok command
                | .ok _ =>
                    stop (complainAs name ("cannot change directory to " ++ named path ++ ": "
                      ++ SystemError.notDirectory.words))
                | .error cause =>
                    stop (complainAs name ("cannot change directory to " ++ named path ++ ": "
                      ++ cause.words))

end ModeSwitch.Host.Shell.Tools
