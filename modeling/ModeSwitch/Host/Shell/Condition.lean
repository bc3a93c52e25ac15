import ModeSwitch.Host.Shell.Number

/-! Conditions.

A condition is written as a row of words: texts, numbers and files are compared or looked at by
operators, and conditions are joined by others.  Whether a word is an operator depends on the words
around it.
-/

namespace ModeSwitch.Host.Shell

namespace Condition

/-- What stands at a path, as far as conditions ask for it. -/
structure FileFacts where
  isFile : Bool
  isDirectory : Bool
  isDevice : Bool
  canBeRun : Bool
  isEmpty : Bool
  /-- What tells the file from all others. -/
  identity : List String
  deriving DecidableEq, Repr

/-- What conditions ask of the files of a host. -/
structure Files where
  /-- What a path leads to. -/
  facts? : Octets → Option FileFacts
  /-- Is a link at the path itself? -/
  isLink : Octets → Bool

inductive Comparison where
  | same
  | different
  | before
  | after
  | equal
  | unequal
  | greater
  | atLeast
  | less
  | atMost
  | newer
  | older
  | sameFile
  deriving DecidableEq, Repr

/-- What is asked of one word. -/
inductive Question where
  | isEmpty
  | isNotEmpty
  | isTerminal
  | isLink
  /-- Is there a file with a property? -/
  | file (property : FileFacts → Bool)

/-- A word with a sense in a condition. -/
inductive Operator where
  | question (which : Question)
  | comparison (which : Comparison)
  | not
  | and
  | or
  | opening
  | closing

def operators : List (String × Operator) :=
  [("-r", .question (.file fun _ => true)), ("-w", .question (.file fun _ => true)),
    ("-x", .question (.file (·.canBeRun))), ("-e", .question (.file fun _ => true)),
    ("-f", .question (.file (·.isFile))), ("-d", .question (.file (·.isDirectory))),
    ("-c", .question (.file (·.isDevice))), ("-b", .question (.file fun _ => false)),
    ("-p", .question (.file fun _ => false)), ("-u", .question (.file fun _ => false)),
    ("-g", .question (.file fun _ => false)), ("-k", .question (.file fun _ => false)),
    ("-s", .question (.file fun facts => !facts.isEmpty)), ("-t", .question .isTerminal),
    ("-z", .question .isEmpty), ("-n", .question .isNotEmpty), ("-h", .question .isLink),
    ("-O", .question (.file fun _ => true)), ("-G", .question (.file fun _ => true)),
    ("-L", .question .isLink), ("-S", .question (.file fun _ => false)),
    ("=", .comparison .same), ("!=", .comparison .different), ("<", .comparison .before),
    (">", .comparison .after), ("-eq", .comparison .equal), ("-ne", .comparison .unequal),
    ("-ge", .comparison .atLeast), ("-gt", .comparison .greater), ("-le", .comparison .atMost),
    ("-lt", .comparison .less), ("-nt", .comparison .newer), ("-ot", .comparison .older),
    ("-ef", .comparison .sameFile), ("!", .not), ("-a", .and), ("-o", .or), ("(", .opening),
    (")", .closing)]

def operator? (word : Octets) : Option Operator :=
  operators.lookup (String.ofList word)

def isComparison (word : Octets) : Bool :=
  match operator? word with
  | some (.comparison _) => true
  | _ => false

/-- What the first of some words is. -/
inductive Head where
  | nothing
  | operand
  | operator (operator : Operator)

/-- What the first of some words is.  A question is an operand if nothing follows it, or if it is
compared with something. -/
def head : List Octets → Head
  | [] => .nothing
  | word :: rest =>
      match operator? word, rest with
      | none, _ => .operand
      | some (.question _), [] => .operand
      | some (.question which), [_] => .operator (.question which)
      | some (.question which), next :: _ :: _ =>
          if isComparison next then .operand else .operator (.question which)
      | some .opening, [] => .operand
      | some operator, _ => .operator operator

inductive Problem where
  /-- A number is asked for. -/
  | notNumber (word : Octets)
  | operandMissing (operator : Octets)
  | notClosed
  /-- The condition ends with the word, but another one follows. -/
  | notJoined (word next : Octets)
  deriving DecidableEq, Repr

def aboutWord (word : Octets) (problem : String) : Octets :=
  if word = [] then problem.toList else word ++ ": ".toList ++ problem.toList

def Problem.message : Problem → Octets
  | .notNumber word => "Illegal number: ".toList ++ word
  | .operandMissing operator => aboutWord operator "argument expected"
  | .notClosed => "closing paren expected".toList
  | .notJoined word _ => aboutWord word "unexpected operator"

/-- Reads a condition; the state is the words from the one that was read last. -/
abbrev Reader := StateT (List Octets) (Except Problem)

def advance (count : Nat) : Reader Head := do
  modify (·.drop count)
  return head (← get)

def peek : Reader Head :=
  return head ((← get).drop 1)

def present : Reader Octets :=
  return (← get).head?.getD []

def numberOf (word : Octets) : Reader Int :=
  match Number.ofText? word with
  | some n => return n
  | none => throw (.notNumber word)

def compareNumbers (holds : Int → Int → Bool) (first second : Octets) : Reader Bool := do
  let a ← numberOf first
  let b ← numberOf second
  return holds a b

def compare (files : Files) (which : Comparison) (first second : Octets) : Reader Bool :=
  match which with
  | .same => return first = second
  | .different => return first ≠ second
  | .before => return first < second
  | .after => return second < first
  | .equal => compareNumbers (fun a b => a = b) first second
  | .unequal => compareNumbers (fun a b => a ≠ b) first second
  | .greater => compareNumbers (fun a b => b < a) first second
  | .atLeast => compareNumbers (fun a b => b ≤ a) first second
  | .less => compareNumbers (fun a b => a < b) first second
  | .atMost => compareNumbers (fun a b => a ≤ b) first second
  | .newer | .older => return false
  | .sameFile =>
      match files.facts? first, files.facts? second with
      | some a, some b => return a.identity = b.identity
      | _, _ => return false

def answer (files : Files) (which : Question) (word : Octets) : Reader Bool :=
  match which with
  | .isEmpty => return word = []
  | .isNotEmpty => return word ≠ []
  | .isTerminal => do
      discard (numberOf word)
      return false
  | .isLink => return files.isLink word
  | .file property => return (files.facts? word).any property

/-- Answers a question about the next word, or compares the words around the next one, or asks whether
the present one is not empty. -/
def simple (files : Files) (head : Head) : Reader Bool := do
  match head with
  | .operator (.question which) =>
      let operator ← present
      modify (·.drop 1)
      if (← get).isEmpty then throw (.operandMissing operator)
      else answer files which (← present)
  | _ =>
      let first ← present
      match ← peek with
      | .operator (.comparison which) =>
          modify (·.drop 1)
          let operator ← present
          modify (·.drop 1)
          if (← get).isEmpty then throw (.operandMissing operator)
          else compare files which first (← present)
      | _ => return first ≠ []

mutual

def disjunction (files : Files) : (fuel : Nat) → Head → Reader Bool
  | 0, _ => return false
  | fuel + 1, head => do
      let first ← conjunction files fuel head
      match ← peek with
      | .operator .or =>
          let rest ← disjunction files fuel (← advance 2)
          return first || rest
      | _ => return first

def conjunction (files : Files) : (fuel : Nat) → Head → Reader Bool
  | 0, _ => return false
  | fuel + 1, head => do
      let first ← negation files fuel head
      match ← peek with
      | .operator .and =>
          let rest ← conjunction files fuel (← advance 2)
          return first && rest
      | _ => return first

def negation (files : Files) : (fuel : Nat) → Head → Reader Bool
  | 0, _ => return false
  | fuel + 1, head => do
      match head with
      | .operator .not =>
          match ← peek with
          | .nothing => return !(← primary files fuel .nothing)
          | next =>
              modify (·.drop 1)
              return !(← negation files fuel next)
      | head => primary files fuel head

/-- Reads a condition that is not joined with others, unless in parentheses. -/
def primary (files : Files) : (fuel : Nat) → Head → Reader Bool
  | 0, _ => return false
  | fuel + 1, head => do
      match head with
      | .nothing => return false
      | .operator .opening =>
          match ← advance 1 with
          | .operator .closing => return false
          | next =>
              let inner ← disjunction files fuel next
              match ← advance 1 with
              | .operator .closing => return inner
              | _ => throw .notClosed
      | head => simple files head

end

def readAll (files : Files) (words : List Octets) (first : Head) : Except Problem Bool := do
  let (holds, rest) ← (disjunction files (4 * words.length + 8) first).run words
  match rest with
  | word :: next :: _ => .error (.notJoined word next)
  | _ => return holds

/-- Does a condition hold?  A condition of three words whose second one compares is always that
comparison. -/
def holds (files : Files) : (words : List Octets) → Except Problem Bool
  | [] => .ok false
  | first :: rest =>
      let words := first :: rest
      let isComparison := match rest with
        | [second, _] => isComparison second
        | _ => false
      if isComparison then readAll files words .operand
      else if words.length = 3 || words.length = 4 then
        if first = ['('] && words.getLast? = some [')'] then
          readAll files rest.dropLast (head rest.dropLast)
        else if first = ['!'] then (holds files rest).map not
        else readAll files words (head words)
      else readAll files words (head words)

end Condition

end ModeSwitch.Host.Shell
