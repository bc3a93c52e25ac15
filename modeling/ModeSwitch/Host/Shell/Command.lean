import ModeSwitch.Host.Shell.Octets

/-! Commands of a shell.

A command is either simple, a list of words with assignments before it, or made of other commands.  A
word is a row of pieces: characters, quotes, and what other texts are put in the place of.
-/

namespace ModeSwitch.Host.Shell

/-! ## Words -/

inductive Parameter where
  /-- The name of the script at zero, its arguments after that. -/
  | position (n : Nat)
  /-- All arguments, each for itself between quotes. -/
  | all
  /-- All arguments together. -/
  | joined
  | count
  /-- The exit code of the last command. -/
  | status
  /-- The number of the shell's own process. -/
  | process
  /-- The number of the last process in the background. -/
  | job
  /-- The letters of the options that are set. -/
  | options
  | variable (name : Octets)
  deriving DecidableEq, Repr

/-- How the input or an output of a command is opened. -/
inductive Opening where
  | read
  | readWrite
  | write
  /-- Even if the file is there and files are not to be overwritten. -/
  | overwrite
  | append
  deriving DecidableEq, Repr

mutual

inductive Piece where
  | char (c : Char)
  /-- A character without a special sense. -/
  | fixed (c : Char)
  /-- A quote, which begins or ends a stretch that is not split. -/
  | mark
  | parameter (which : Parameter) (use : ParameterUse)
  /-- What a command writes. -/
  | output (command : Option Command)
  /-- The value of an expression. -/
  | value (expression : List Piece)

/-- How the value of a parameter is used.  Words that stand for a missing value may also stand for an
empty one. -/
inductive ParameterUse where
  | plain
  | length
  | orElse (orEmpty : Bool) (word : List Piece)
  | ifSet (orEmpty : Bool) (word : List Piece)
  | orAssigned (orEmpty : Bool) (word : List Piece)
  | orFailing (orEmpty : Bool) (word : List Piece)
  /-- Without a shortest or longest beginning of a form. -/
  | withoutHead (isLongest : Bool) (form : List Piece)
  /-- Without a shortest or longest end of a form. -/
  | withoutTail (isLongest : Bool) (form : List Piece)
  /-- In a way that no shell knows. -/
  | unknown (word : List Piece)

/-- A command, with the numbers of lines for complaints. -/
inductive Command where
  | simple (line : Nat) (assignments words : List (List Piece)) (redirections : List Redirection)
  /-- A command with redirections. -/
  | redirected (line : Nat) (command : Option Command) (redirections : List Redirection)
  /-- A command that cannot change the shell around it. -/
  | apart (line : Nat) (command : Option Command) (redirections : List Redirection)
  | background (line : Nat) (command : Option Command) (redirections : List Redirection)
  /-- Commands each of which reads what the one before it writes. -/
  | pipeline (inBackground : Bool) (stages : List Command)
  | negation (command : Command)
  | both (first second : Command)
  | either (first second : Command)
  | sequence (first second : Command)
  | choice (condition positive negative : Option Command)
  /-- Runs the body until the condition ends as is said. -/
  | loop (endsOnSuccess : Bool) (condition body : Option Command)
  /-- Runs the body for each of some words. -/
  | each (line : Nat) (name : Octets) (words : List (List Piece)) (body : Option Command)
  /-- Runs the body of the first case with a form that a word has. -/
  | select (line : Nat) (word : List Piece) (cases : List Case)
  | definition (name : Octets) (body : Command)

inductive Case where
  | case (forms : List (List Piece)) (body : Option Command)

/-- Where an input or an output of a command is led. -/
inductive Redirection where
  | file (source : Nat) (opening : Opening) (path : List Piece)
  /-- To where another one is led, or nowhere. -/
  | duplicate (source : Nat) (target : Option Nat)
  /-- To where one is led whose number is the value of a word. -/
  | duplicateNamed (source : Nat) (target : List Piece)
  /-- From a document that stands in the script, by its number. -/
  | document (source : Nat) (number : Nat)

end

abbrev Word := List Piece

namespace Word

/-- The text of a word that has neither quotes nor anything else than characters. -/
def bare? : Word → Option Octets
  | [] => some []
  | .char c :: rest => (bare? rest).map (c :: ·)
  | _ => none

def bareHead : Word → Octets
  | .char c :: rest => c :: bareHead rest
  | _ => []

def isQuoted (word : Word) : Bool :=
  word.any fun
    | .fixed _ | .mark => true
    | _ => false

def isAssignment (word : Word) : Bool :=
  let head := bareHead word
  let name := head.takeWhile isNameChar
  isName name && (head.drop name.length).head? = some '='

def unquoted (word : Word) : Octets :=
  word.filterMap fun
    | .char c | .fixed c => some c
    | _ => none

end Word

end ModeSwitch.Host.Shell
