import ModeSwitch.Host.Shell.State

/-! The builtins of a shell, and how their arguments begin.

Some builtins are special: no function can replace them, what goes wrong in them stops the shell, and
assignments before them stay.
-/

namespace ModeSwitch.Host.Shell

def specialBuiltins : List String :=
  [".", ":", "break", "continue", "eval", "exec", "exit", "export", "local", "readonly", "return",
    "set", "shift", "times", "trap", "unset"]

def regularBuiltins : List String :=
  ["[", "alias", "bg", "cd", "chdir", "command", "echo", "false", "fg", "getopts", "hash", "jobs",
    "kill", "printf", "pwd", "read", "test", "true", "type", "ulimit", "umask", "unalias", "wait"]

def isSpecialBuiltin (name : Octets) : Bool :=
  specialBuiltins.contains (String.ofList name)

def isBuiltin (name : Octets) : Bool :=
  isSpecialBuiltin name || regularBuiltins.contains (String.ofList name)

def takesAssignments (name : Octets) : Bool :=
  ["alias", "export", "local", "readonly"].contains (String.ofList name)

/-! ## Options -/

/-- The letters of some options; a colon behind one says that an argument follows. -/
def takesArgument (letters : Octets) (letter : Char) : Option Bool :=
  match letters.dropWhile (· ≠ letter) with
  | [] => none
  | _ :: next => some (next.head? = some ':')

structure Options where
  /-- The letters, with the arguments of those that have one. -/
  given : List (Char × Octets)
  /-- The arguments behind the options. -/
  rest : List Octets
  deriving DecidableEq, Repr

namespace Options

def has (options : Options) (letter : Char) : Bool :=
  options.given.any (·.1 = letter)

def ofLetters (letters : Octets) : (word : Octets) → (arguments : List Octets) →
    Except Octets (List (Char × Octets) × List Octets)
  | [], arguments => .ok ([], arguments)
  | letter :: later, arguments =>
      match if letter = ':' then none else takesArgument letters letter with
      | none => .error ("Illegal option -".toList ++ [letter])
      | some false => do
          let (given, arguments) ← ofLetters letters later arguments
          return ((letter, []) :: given, arguments)
      | some true =>
          match later, arguments with
          | _ :: _, arguments => .ok ([(letter, later)], arguments)
          | [], argument :: arguments => .ok ([(letter, argument)], arguments)
          | [], [] => .error ("No arg for -".toList ++ letter :: " option".toList)

/-- Reads the options at the head of arguments, at most as many words of them as are given. -/
def ofArguments (letters : Octets) : (words : Nat) → (arguments : List Octets) →
    Except Octets Options
  | 0, arguments => .ok ⟨[], arguments⟩
  | words + 1, arguments =>
      match arguments with
      | ['-', '-'] :: rest => .ok ⟨[], rest⟩
      | ('-' :: letter :: later) :: rest => do
          let (given, rest) ← ofLetters letters (letter :: later) rest
          let others ← ofArguments letters words rest
          return ⟨given ++ others.given, others.rest⟩
      | arguments => .ok ⟨[], arguments⟩

end Options

def optionsOf (letters : String) (arguments : List Octets) : Act Options :=
  match Options.ofArguments letters.toList arguments.length arguments with
  | .ok options => return options
  | .error problem => fail problem

end ModeSwitch.Host.Shell
