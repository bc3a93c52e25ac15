import ModeSwitch.Host.Shell.Builtin.Names
import ModeSwitch.Host.Shell.Redirections

/-! How a shell is called: with options, with a script or the path of one, and with arguments. -/

namespace ModeSwitch.Host.Shell

/-- Where a shell finds its script. -/
inductive ScriptSource where
  | text (script : Octets)
  | file (path : Octets)
  | input
  deriving DecidableEq, Repr

/-- A shell as it is called. -/
structure Invocation where
  source : ScriptSource
  /-- What the shell is called, if it is not what it was called by. -/
  name : Option Octets
  arguments : List Octets
  deriving DecidableEq, Repr

namespace Invocation

/-- Sets the options of a word by their letters; one of them says that a script follows.  Tells whether
it is there, and the arguments that follow. -/
def setLetters (isOn : Bool) : (letters : Octets) → (arguments : List Octets) →
    Act (Bool × List Octets)
  | [], arguments => return (false, arguments)
  | letter :: later, arguments => do
      if letter = 'c' then
        let (_, arguments) ← setLetters isOn later arguments
        return (true, arguments)
      else if letter = 'l' then setLetters isOn later arguments
      else if letter = 'o' then
        match arguments with
        | [] => setLetters isOn later []
        | name :: rest =>
            Builtin.setOptionNamed name isOn
            setLetters isOn later rest
      else
        Builtin.setOption letter isOn
        setLetters isOn later arguments

/-- Sets the options at the head of arguments, of which at most `words` are words of options. -/
def setOptions : (words : Nat) → (arguments : List Octets) → Act (Bool × List Octets)
  | 0, arguments => return (false, arguments)
  | words + 1, arguments =>
      match arguments with
      | ['-'] :: rest | ['-', '-'] :: rest => return (false, rest)
      | (sign :: letters) :: rest =>
          if sign = '-' || sign = '+' then do
            let (isHere, rest) ← setLetters (sign = '-') letters rest
            let (isLater, rest) ← setOptions words rest
            return (isHere || isLater, rest)
          else return (false, arguments)
      | arguments => return (false, arguments)

def read (arguments : List Octets) : Act Invocation := do
  let (hasScript, rest) ← setOptions (arguments.length + 1) arguments
  match hasScript, rest with
  | true, [] => fail "-c requires an argument".toList
  | true, script :: rest => return ⟨.text script, rest.head?, rest.tail⟩
  | false, [] => return ⟨.input, none, []⟩
  | false, path :: rest =>
      if (← get).hasOption 's' then return ⟨.input, none, path :: rest⟩
      else return ⟨.file path, some path, rest⟩

end Invocation

def scriptAt (path : Octets) : Act Octets := do
  let state ← get
  let opened := do
    let (opened, number) ← openPath state .read path
    opened.readChannel number
  match opened with
  | .ok (text, _) => return text
  | .error .isDirectory => return []
  | .error cause => fail (openingProblem .read path cause)

end ModeSwitch.Host.Shell
