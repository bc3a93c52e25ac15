import ModeSwitch.Host.Shell.Builtin
import ModeSwitch.Host.Shell.Redirections
import ModeSwitch.Host.Shell.Tools.Quoting

/-! How the programs of a host take arguments, and read and write.

Each program takes the name that it was called by and its arguments, and gives an exit code.  Options
may stand anywhere among the arguments, and a dash stands for the standard input.
-/

namespace ModeSwitch.Host.Shell.Tools

/-- A program: what it does when it is called by a name with some arguments. -/
abbrev Tool := (name : Octets) → (arguments : List Octets) → Act Nat

/-! ## Complaints -/

def complainAs (name : Octets) (message : String) : Act Nat := do
  tell (name ++ ": ".toList ++ message.toList ++ ['\n'])
  return 1

def tellOfHelp (name : Octets) : Act Unit :=
  tell ("Try '".toList ++ name ++ " --help' for more information.\n".toList)

def misused (name : Octets) (message : String) : Act Nat := do
  discard (complainAs name message)
  tellOfHelp name
  return 1

/-! ## Options -/

/-- The options that a program knows. -/
structure Known where
  /-- Their letters; a colon behind one says that an argument follows. -/
  letters : String
  /-- Their names, and the letters that these stand for. -/
  names : List (String × Char)
  /-- The exit code if an argument is none of them. -/
  misuse : Nat

/-- What the arguments of a program have come to. -/
structure Given where
  options : List (Char × Octets)
  operands : List Octets
  deriving DecidableEq, Repr

namespace Given

def has (given : Given) (letter : Char) : Bool :=
  given.options.any (·.1 = letter)

/-- The argument of an option, if it is given. -/
def argument? (given : Given) (letter : Char) : Option Octets :=
  (given.options.reverse.find? (·.1 = letter)).map (·.2)

/-- The letter of the options that only ask what the program is. -/
def helpLetter : Char := '?'

def letters (known : Known) : (word : Octets) → (arguments : List Octets) →
    Except String (List (Char × Octets) × List Octets)
  | [], arguments => .ok ([], arguments)
  | letter :: later, arguments =>
      match if letter = ':' then none else takesArgument known.letters.toList letter with
      | none => .error ("invalid option -- '" ++ String.ofList [letter] ++ "'")
      | some false => do
          let (options, arguments) ← letters known later arguments
          return ((letter, []) :: options, arguments)
      | some true =>
          match later, arguments with
          | _ :: _, arguments => .ok ([(letter, later)], arguments)
          | [], argument :: arguments => .ok ([(letter, argument)], arguments)
          | [], [] => .error ("option requires an argument -- '" ++ String.ofList [letter] ++ "'")

/-- Reads the name of an option, which may be cut short, with what stands behind an equals sign, and
what follows it. -/
def longName (known : Known) (word : Octets) (arguments : List Octets) :
    Except String ((Char × Octets) × List Octets) :=
  let name := word.takeWhile (· ≠ '=')
  let value := (word.drop name.length).tail?
  let names := known.names ++ [("help", helpLetter), ("version", helpLetter)]
  let whole := names.filter fun entry => entry.1.toList = name
  let found := if whole.isEmpty then names.filter fun entry => name.isPrefixOf entry.1.toList else whole
  let quoted (name : String) : String := "'--" ++ name ++ "'"
  match found with
  | [] => .error ("unrecognized option " ++ quoted (String.ofList word))
  | (full, letter) :: others =>
      if others.any (·.2 ≠ letter) then
        .error ("option " ++ quoted (String.ofList word) ++ " is ambiguous; possibilities:"
          ++ String.join (found.map fun entry => " " ++ quoted entry.1))
      else
        match (takesArgument known.letters.toList letter).getD false, value, arguments with
        | false, none, arguments => .ok ((letter, []), arguments)
        | false, some _, _ => .error ("option " ++ quoted full ++ " doesn't allow an argument")
        | true, some value, arguments => .ok ((letter, value), arguments)
        | true, none, argument :: arguments => .ok ((letter, argument), arguments)
        | true, none, [] => .error ("option " ++ quoted full ++ " requires an argument")

/-- Reads arguments, of which at most `words` are words of options; `isMixed` tells whether options may
stand behind operands.  Nothing is read behind an option that only asks what the program is. -/
def read (known : Known) (isMixed : Bool) : (words : Nat) → (arguments : List Octets) →
    Except String Given
  | 0, arguments => .ok ⟨[], arguments⟩
  | words + 1, arguments =>
      match arguments with
      | [] => .ok ⟨[], []⟩
      | ['-', '-'] :: rest => .ok ⟨[], rest⟩
      | ('-' :: '-' :: word) :: rest => do
          let (option, rest) ← longName known word rest
          if option.1 = helpLetter then return ⟨[option], []⟩
          let others ← read known isMixed words rest
          return ⟨option :: others.options, others.operands⟩
      | ('-' :: letter :: later) :: rest => do
          let (options, rest) ← letters known (letter :: later) rest
          let others ← read known isMixed words rest
          return ⟨options ++ others.options, others.operands⟩
      | operand :: rest =>
          if isMixed then do
            let others ← read known isMixed words rest
            return ⟨others.options, operand :: others.operands⟩
          else .ok ⟨[], operand :: rest⟩

end Given

def withOptions (known : Known) (run : (name : Octets) → Given → Act Nat) : Tool :=
  fun name arguments =>
    match Given.read known true (arguments.length + 1) arguments with
    | .ok given => if given.has Given.helpLetter then return 0 else run name given
    | .error problem => do
        discard (misused name problem)
        return known.misuse

/-! ## Input and output -/

def writeOut (name text : Octets) : Act Nat := do
  match (← get).write standardOutput text with
  | .ok state =>
      set state
      return 0
  | .error cause => complainAs name ("write error: " ++ cause.words)

def isInput (operand : Octets) : Bool :=
  operand = ['-']

def readOperand (operand : Octets) : Act (Except SystemError Octets) := do
  let state ← get
  let result :=
    if isInput operand then state.read standardInput
    else do
      let (opened, number) ← openPath state .read operand
      let (text, state) ← opened.readChannel number
      return (text, { state with channels := state.channels.filter (·.1 ≠ number) })
  match result with
  | .ok (text, state) =>
      set state
      return .ok text
  | .error cause => return .error cause

/-- Reads files one after another; one that cannot be read is complained about in words that are made
of its name and of the cause. -/
def readOperands (name : Octets) (problem : Octets → SystemError → String)
    (use : Octets → Octets → Act Nat) : (operands : List Octets) → Act Nat
  | [] => return 0
  | operand :: rest => do
      let status ← match ← readOperand operand with
        | .ok text => use operand text
        | .error cause => complainAs name (problem operand cause)
      let later ← readOperands name problem use rest
      return max status later

/-- The complaint about a file that cannot be read, in most programs. -/
def unreadable (operand : Octets) (cause : SystemError) : String :=
  shownName operand ++ ": " ++ cause.words

/-- The complaint of programs that tell whether a file cannot be opened, or not be read. -/
def unopened (operand : Octets) (cause : SystemError) : String :=
  if cause = .isDirectory then
    "error reading " ++ quotedName (if isInput operand then "standard input".toList else operand)
      ++ ": " ++ cause.words
  else "cannot open " ++ quotedName operand ++ " for reading: " ++ cause.words

/-- The operands, or the standard input if there are none. -/
def orInput (operands : List Octets) : List Octets :=
  if operands.isEmpty then [['-']] else operands

/-- The lines of a text; each but perhaps the last has its end. -/
def linesOf : Octets → List Octets
  | [] => []
  | c :: rest =>
      if c = '\n' then ['\n'] :: linesOf rest
      else
        match linesOf rest with
        | [] => [[c]]
        | line :: later => (c :: line) :: later

def withoutEnd (line : Octets) : Octets :=
  if line.getLast? = some '\n' then line.dropLast else line

def piecesAt (separator : Char) : Octets → List Octets
  | [] => [[]]
  | c :: rest =>
      if c = separator then [] :: piecesAt separator rest
      else
        match piecesAt separator rest with
        | [] => [[c]]
        | piece :: later => (c :: piece) :: later

/-- A number with blanks in front, so that it is as wide as a column. -/
def rightward (width : Nat) (n : Nat) : Octets :=
  let digits := Number.text n
  List.replicate (width - digits.length) ' ' ++ digits

end ModeSwitch.Host.Shell.Tools
