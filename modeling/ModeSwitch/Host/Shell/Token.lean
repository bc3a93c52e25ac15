import ModeSwitch.Host.Shell.Command

/-! Tokens of scripts, and what is wrong with a script. -/

namespace ModeSwitch.Host.Shell

/-- A word that is part of the grammar where a command may begin. -/
inductive Keyword where
  | not
  | case
  | do
  | done
  | elif
  | else
  | esac
  | fi
  | for
  | if
  | in
  | then
  | until
  | while
  | opening
  | closing
  deriving DecidableEq, Repr

namespace Keyword

def text : Keyword → String
  | .not => "!"
  | .case => "case"
  | .do => "do"
  | .done => "done"
  | .elif => "elif"
  | .else => "else"
  | .esac => "esac"
  | .fi => "fi"
  | .for => "for"
  | .if => "if"
  | .in => "in"
  | .then => "then"
  | .until => "until"
  | .while => "while"
  | .opening => "\x7b"
  | .closing => "\x7d"

def all : List Keyword :=
  [.not, .case, .do, .done, .elif, .else, .esac, .fi, .for, .if, .in, .then, .until, .while,
    .opening, .closing]

def ofText? (text : Octets) : Option Keyword :=
  all.find? (·.text.toList = text)

def endsList : Keyword → Bool
  | .do | .done | .elif | .else | .esac | .fi | .then | .closing => true
  | .not | .case | .for | .if | .in | .until | .while | .opening => false

end Keyword

/-- What an operator of redirection says before its word. -/
inductive Leading where
  | file (opening : Opening)
  | duplicate
  /-- A document follows, perhaps with tabs before its lines that do not count. -/
  | document (dropsTabs : Bool)
  deriving DecidableEq, Repr

inductive Token where
  | endOfScript
  | newline
  | semicolon
  | background
  | andThen
  | orElse
  | pipe
  | opening
  | closing
  | endOfCase
  | redirection (source : Nat) (leading : Leading)
  | word (pieces : Word)
  | keyword (which : Keyword)

namespace Token

def words : Token → String
  | .endOfScript => "end of file"
  | .newline => "newline"
  | .semicolon => "\";\""
  | .background => "\"&\""
  | .andThen => "\"&&\""
  | .orElse => "\"||\""
  | .pipe => "\"|\""
  | .opening => "\"(\""
  | .closing => "\")\""
  | .endOfCase => "\";;\""
  | .redirection .. => "redirection"
  | .word _ => "word"
  | .keyword which => "\"" ++ which.text ++ "\""

def endsList : Token → Bool
  | .endOfScript | .closing | .endOfCase => true
  | .keyword which => which.endsList
  | _ => false

end Token

/-- What is wrong with a script. -/
inductive ScriptProblem where
  | quoteNotClosed
  | braceNotClosed
  | expressionNotClosed
  | outputNotClosed
  | badLoopVariable
  | badFunctionName
  /-- A token stands where another one is expected, if one is. -/
  | unexpected (token : Token) (expected : Option Token)

namespace ScriptProblem

def message : ScriptProblem → String
  | .quoteNotClosed => "Unterminated quoted string"
  | .braceNotClosed => "Missing '\x7d'"
  | .expressionNotClosed => "Missing '))'"
  | .outputNotClosed => "EOF in backquote substitution"
  | .badLoopVariable => "Bad for loop variable"
  | .badFunctionName => "Bad function name"
  | .unexpected token none => token.words ++ " unexpected"
  | .unexpected token (some expected) =>
      token.words ++ " unexpected (expecting " ++ expected.words ++ ")"

end ScriptProblem

/-- What is wrong with a script, and the number of the line. -/
structure ScriptFault where
  problem : ScriptProblem
  line : Nat

end ModeSwitch.Host.Shell
