import ModeSwitch.Host.Shell.Number

/-! Expressions.

An expression is made of numbers, of variables whose values write numbers, and of operators.  What it
does not come to, behind a condition that settles its value, is read but has no effect.
-/

namespace ModeSwitch.Host.Shell.Arithmetic

inductive Operator where
  | times
  | divided
  | remainder
  | plus
  | minus
  | shiftLeft
  | shiftRight
  | less
  | lessEqual
  | greater
  | greaterEqual
  | equal
  | unequal
  | bitAnd
  | bitXor
  | bitOr
  deriving DecidableEq, Repr

namespace Operator

def looseness : Operator → Nat
  | .times | .divided | .remainder => 0
  | .plus | .minus => 1
  | .shiftLeft | .shiftRight => 2
  | .less | .lessEqual | .greater | .greaterEqual => 3
  | .equal | .unequal => 4
  | .bitAnd => 5
  | .bitXor => 6
  | .bitOr => 7

def loosest : Nat := 8

end Operator

inductive Token where
  | number (value : Int)
  | variable (name : Octets)
  | operator (operator : Operator)
  /-- Sets a variable to a value, or to what an operator makes of both values. -/
  | assign (operator : Option Operator)
  | and
  | or
  | not
  | complement
  | opening
  | closing
  | question
  | colon
  | unknown
  deriving DecidableEq, Repr

/-- What is wrong with an expression. -/
inductive Fault where
  | divisionByZero
  | expectedValue
  | expectedEnd
  | expectedClosing
  | expectedColon
  /-- The value of a variable writes no number. -/
  | noNumber (value : Octets)
  deriving DecidableEq, Repr

def simpleOperator? : Char → Option Operator
  | '*' => some .times
  | '/' => some .divided
  | '%' => some .remainder
  | '+' => some .plus
  | '-' => some .minus
  | '&' => some .bitAnd
  | '^' => some .bitXor
  | '|' => some .bitOr
  | _ => none

/-- The token of one or more marks at the head of a text, and the rest. -/
def marks (text : Octets) : Token × Octets :=
  match text with
  | '<' :: '<' :: '=' :: rest => (.assign (some .shiftLeft), rest)
  | '>' :: '>' :: '=' :: rest => (.assign (some .shiftRight), rest)
  | '<' :: '<' :: rest => (.operator .shiftLeft, rest)
  | '>' :: '>' :: rest => (.operator .shiftRight, rest)
  | '<' :: '=' :: rest => (.operator .lessEqual, rest)
  | '>' :: '=' :: rest => (.operator .greaterEqual, rest)
  | '<' :: rest => (.operator .less, rest)
  | '>' :: rest => (.operator .greater, rest)
  | '=' :: '=' :: rest => (.operator .equal, rest)
  | '=' :: rest => (.assign none, rest)
  | '!' :: '=' :: rest => (.operator .unequal, rest)
  | '!' :: rest => (.not, rest)
  | '&' :: '&' :: rest => (.and, rest)
  | '|' :: '|' :: rest => (.or, rest)
  | '~' :: rest => (.complement, rest)
  | '(' :: rest => (.opening, rest)
  | ')' :: rest => (.closing, rest)
  | '?' :: rest => (.question, rest)
  | ':' :: rest => (.colon, rest)
  | c :: '=' :: rest =>
      match simpleOperator? c with
      | some operator => (.assign (some operator), rest)
      | none => (.unknown, '=' :: rest)
  | c :: rest =>
      match simpleOperator? c with
      | some operator => (.operator operator, rest)
      | none => (.unknown, rest)
  | [] => (.unknown, [])

def tokens : (steps : Nat) → Octets → List Token
  | 0, _ | _, [] => []
  | steps + 1, c :: rest =>
      if c = ' ' || c = '\t' || c = '\n' then tokens steps rest
      else if c.isDigit then
        match Number.head? true (c :: rest) with
        | some head => .number head.nearest :: tokens steps head.rest
        | none => []
      else if beginsName c then
        let name := (c :: rest).takeWhile isNameChar
        .variable name :: tokens steps ((c :: rest).drop name.length)
      else
        let (token, rest) := marks (c :: rest)
        token :: tokens steps rest

/-- What the reader of an expression knows. -/
structure State where
  tokens : List Token
  /-- The values that have been set, the last one first. -/
  assigned : List (Octets × Int)

abbrev Reader := StateT State (Except Fault)

abbrev Variables := Octets → Option Octets

def ofBool (value : Bool) : Int :=
  if value then 1 else 0

def shiftLeft (a b : Int) : Int :=
  Number.wrap (a * Int.pow 2 (b % 64).toNat)

def shiftRight (a b : Int) : Int :=
  a / Int.pow 2 (b % 64).toNat

def bitwise (combine : Nat → Nat → Nat) (a b : Int) : Int :=
  let bits (n : Int) : Nat := (n % Number.modulus).toNat
  Number.wrap (combine (bits a) (bits b))

/-- What an operator makes of two numbers.  A quotient is rounded towards zero. -/
def apply (operator : Operator) (a b : Int) : Except Fault Int :=
  match operator with
  | .times => .ok (Number.wrap (a * b))
  | .divided => if b = 0 then .error .divisionByZero else .ok (Number.wrap (a.tdiv b))
  | .remainder => if b = 0 then .error .divisionByZero else .ok (Number.wrap (a.tmod b))
  | .plus => .ok (Number.wrap (a + b))
  | .minus => .ok (Number.wrap (a - b))
  | .shiftLeft => .ok (shiftLeft a b)
  | .shiftRight => .ok (shiftRight a b)
  | .less => .ok (ofBool (a < b))
  | .lessEqual => .ok (ofBool (a ≤ b))
  | .greater => .ok (ofBool (b < a))
  | .greaterEqual => .ok (ofBool (b ≤ a))
  | .equal => .ok (ofBool (a = b))
  | .unequal => .ok (ofBool (a ≠ b))
  | .bitAnd => .ok (bitwise (· &&& ·) a b)
  | .bitXor => .ok (bitwise (· ^^^ ·) a b)
  | .bitOr => .ok (bitwise (· ||| ·) a b)

def peek : Reader (Option Token) :=
  return (← get).tokens.head?

def skip : Reader Unit :=
  modify fun state => { state with tokens := state.tokens.drop 1 }

def valueOf (known : Variables) (name : Octets) : Reader Int := do
  match (← get).assigned.lookup name with
  | some value => return value
  | none =>
      match known name with
      | some text =>
          match Number.ofValue? text with
          | some value => return value
          | none => throw (.noNumber text)
      | none => return 0

mutual

def assignment (known : Variables) : (fuel : Nat) → (isIdle : Bool) → Reader Int
  | 0, _ => throw .expectedValue
  | fuel + 1, isIdle => do
      match (← get).tokens with
      | .variable name :: .assign operator :: rest =>
          modify fun state => { state with tokens := rest }
          let value ← assignment known fuel isIdle
          if isIdle then return value
          else
            let value ← match operator with
              | none => pure value
              | some operator =>
                  match apply operator (← valueOf known name) value with
                  | .ok value => pure value
                  | .error fault => throw fault
            modify fun state => { state with assigned := (name, value) :: state.assigned }
            return value
      | _ => condition known fuel isIdle

def condition (known : Variables) : (fuel : Nat) → (isIdle : Bool) → Reader Int
  | 0, _ => throw .expectedValue
  | fuel + 1, isIdle => do
      let test ← disjunction known fuel isIdle
      if (← peek) ≠ some .question then return test
      else
        skip
        let positive ← assignment known fuel (isIdle || test = 0)
        if (← peek) ≠ some .colon then throw .expectedColon
        else
          skip
          let negative ← condition known fuel (isIdle || test ≠ 0)
          return if test ≠ 0 then positive else negative

def disjunction (known : Variables) : (fuel : Nat) → (isIdle : Bool) → Reader Int
  | 0, _ => throw .expectedValue
  | fuel + 1, isIdle => do
      let first ← conjunction known fuel isIdle
      if (← peek) ≠ some .or then return first
      else
        skip
        let rest ← disjunction known fuel (isIdle || first ≠ 0)
        return ofBool (first ≠ 0 || rest ≠ 0)

def conjunction (known : Variables) : (fuel : Nat) → (isIdle : Bool) → Reader Int
  | 0, _ => throw .expectedValue
  | fuel + 1, isIdle => do
      let first ← primary known fuel isIdle
      let first ← operations known fuel isIdle first Operator.loosest
      if (← peek) ≠ some .and then return first
      else
        skip
        let rest ← conjunction known fuel (isIdle || first = 0)
        return ofBool (first ≠ 0 && rest ≠ 0)

def operations (known : Variables) : (fuel : Nat) → (isIdle : Bool) → Int → (bound : Nat) →
    Reader Int
  | 0, _, _, _ => throw .expectedValue
  | fuel + 1, isIdle, first, bound => do
      match ← peek with
      | some (.operator operator) =>
          if bound ≤ operator.looseness then return first
          else
            skip
            let second ← primary known fuel isIdle
            let second ← operations known fuel isIdle second operator.looseness
            let value ←
              if isIdle then pure second
              else match apply operator first second with
                | .ok value => pure value
                | .error fault => throw fault
            operations known fuel isIdle value bound
      | _ => return first

/-- Reads a number, a variable, or an expression in parentheses, with signs before it. -/
def primary (known : Variables) : (fuel : Nat) → (isIdle : Bool) → Reader Int
  | 0, _ => throw .expectedValue
  | fuel + 1, isIdle => do
      match ← peek with
      | some (.number value) =>
          skip
          return value
      | some (.variable name) =>
          skip
          if isIdle then return 0 else valueOf known name
      | some .opening =>
          skip
          let value ← assignment known fuel isIdle
          if (← peek) ≠ some .closing then throw .expectedClosing
          else
            skip
            return value
      | some (.operator .plus) =>
          skip
          primary known fuel isIdle
      | some (.operator .minus) =>
          skip
          return Number.wrap (-(← primary known fuel isIdle))
      | some .not =>
          skip
          return ofBool ((← primary known fuel isIdle) = 0)
      | some .complement =>
          skip
          return -(← primary known fuel isIdle) - 1
      | _ => throw .expectedValue

end

/-- What an expression comes to: its value, and the values of variables that it sets, the first one
first. -/
def evaluate (known : Variables) (expression : Octets) :
    Except Fault (Int × List (Octets × Int)) := do
  let tokens := tokens (expression.length + 1) expression
  let (value, state) ← (assignment known (8 * tokens.length + 16) false).run ⟨tokens, []⟩
  if state.tokens = [] then return (value, state.assigned.reverse) else throw .expectedEnd

def Fault.message (expression : Octets) (fault : Fault) : Octets :=
  let about (problem : String) : Octets :=
    ("arithmetic expression: " ++ problem ++ ": \"").toList ++ expression ++ ['"']
  match fault with
  | .divisionByZero => about "division by zero"
  | .expectedValue => about "expecting primary"
  | .expectedEnd => about "expecting EOF"
  | .expectedClosing => about "expecting ')'"
  | .expectedColon => about "expecting ':'"
  | .noNumber value => "Illegal number: ".toList ++ value

end ModeSwitch.Host.Shell.Arithmetic
