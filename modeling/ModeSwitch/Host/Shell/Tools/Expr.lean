import ModeSwitch.Host.Shell.Search.Reader
import ModeSwitch.Host.Shell.Tools.Given

/-! The program that works out an expression whose parts are arguments. -/

namespace ModeSwitch.Host.Shell.Tools

namespace Expr

inductive Value where
  | number (n : Int)
  | text (text : Octets)
  deriving DecidableEq, Repr

namespace Value

def shown : Value → Octets
  | .number n => Number.text n
  | .text word => word

def digits (word : Octets) : Octets :=
  if word.head? = some '-' then word.drop 1 else word

/-- The value as a number, if it is one: digits, with or without a dash in front. -/
def number? : Value → Option Int
  | .number n => some n
  | .text word =>
      let digits := digits word
      if digits ≠ [] && digits.all Char.isDigit then
        let size : Int := (digits.foldl (fun n c => n * 10 + (c.toNat - '0'.toNat)) 0 : Nat)
        some (if word.head? = some '-' then -size else size)
      else none

/-- Does the value count as nothing?  That is an empty text, or a zero. -/
def isNull : Value → Bool
  | .number n => n = 0
  | .text word => word = [] || (digits word ≠ [] && (digits word).all (· = '0'))

end Value

/-- Why an expression has no value. -/
inductive Problem where
  | missingBehind (word : Octets)
  | unexpected (word : Octets)
  | notClosed (word : Octets)
  | notClosedBy (word : Octets)
  | notANumber
  | divisionByZero
  | wrongPattern (problem : Search.Problem)
  deriving DecidableEq, Repr

def Problem.message : Problem → String
  | .missingBehind word => "syntax error: missing argument after " ++ named word
  | .unexpected word => "syntax error: unexpected argument " ++ named word
  | .notClosed word => "syntax error: expecting ')' after " ++ named word
  | .notClosedBy word => "syntax error: expecting ')' instead of " ++ named word
  | .notANumber => "non-integer argument"
  | .divisionByZero => "division by zero"
  | .wrongPattern problem => problem.message

/-- What has been read, the last word first, and what is to be read. -/
structure ReaderState where
  last : Octets
  rest : List Octets

abbrev Reader := StateT ReaderState (Except Problem)

/-- Reads a word, if it is one of some. -/
def nextOf? (words : List String) : Reader (Option String) := do
  match (← get).rest with
  | word :: rest =>
      let text := String.ofList word
      if words.contains text then
        set (⟨word, rest⟩ : ReaderState)
        return some text
      else return none
  | [] => return none

def next : Reader Octets := do
  match (← get).rest with
  | word :: rest =>
      set (⟨word, rest⟩ : ReaderState)
      return word
  | [] => throw (.missingBehind (← get).last)

def numbers (a b : Value) : Except Problem (Int × Int) :=
  match a.number?, b.number? with
  | some m, some n => .ok (m, n)
  | _, _ => .error .notANumber

/-- What a search pattern matches at the head of a text: its group, or the number of bytes. -/
def matching (text pattern : Octets) : Except Problem Value :=
  match Search.ofText false pattern with
  | .error problem => .error (.wrongPattern problem)
  | .ok search =>
      let spots := search.ends ⟨false, false⟩ (.start text)
      let hasGroup := search.groupCount ≠ 0
      match Search.longest? spots with
      | some spot =>
          if hasGroup then .ok (.text ((spot.groups.lookup 1).getD []))
          else .ok (.number (Search.Spot.start text |>.textTo spot).length)
      | none => .ok (if hasGroup then .text [] else .number 0)

/-- How two values compare, as numbers if both are. -/
def ordering (a b : Value) : Ordering :=
  match a.number?, b.number? with
  | some m, some n => compare m n
  | _, _ => compare (String.ofList a.shown) (String.ofList b.shown)

def compares (operator : String) (a b : Value) : Bool :=
  let order := ordering a b
  match operator with
  | "<" => order = .lt
  | "<=" => order ≠ .gt
  | "=" | "==" => order = .eq
  | "!=" => order ≠ .eq
  | ">=" => order ≠ .lt
  | _ => order = .gt

/-- The place of the first byte of a text that is among others, from one on. -/
def indexOf (text others : Octets) : Nat :=
  match text.findIdx? others.contains with
  | some n => n + 1
  | none => 0

def partOf (text : Octets) (first length : Int) : Octets :=
  if first ≤ 0 || length ≤ 0 then []
  else (text.drop (first.toNat - 1)).take length.toNat

mutual

/-- The first of two values unless it is nothing. -/
def either : (fuel : Nat) → Reader Value
  | 0 => throw .notANumber
  | fuel + 1 => do eitherFrom fuel (← both fuel)

def eitherFrom : (fuel : Nat) → Value → Reader Value
  | 0, value => return value
  | fuel + 1, value => do
      match ← nextOf? ["|"] with
      | none => return value
      | some _ =>
          let second ← both fuel
          eitherFrom fuel
            (if !value.isNull then value else if second.isNull then .number 0 else second)

/-- The first of two values unless one of them is nothing. -/
def both : (fuel : Nat) → Reader Value
  | 0 => throw .notANumber
  | fuel + 1 => do bothFrom fuel (← comparison fuel)

/-- Goes on with values that must both be something. -/
def bothFrom : (fuel : Nat) → Value → Reader Value
  | 0, value => return value
  | fuel + 1, value => do
      match ← nextOf? ["&"] with
      | none => return value
      | some _ =>
          let second ← comparison fuel
          bothFrom fuel (if value.isNull || second.isNull then .number 0 else value)

def comparison : (fuel : Nat) → Reader Value
  | 0 => throw .notANumber
  | fuel + 1 => do comparisonFrom fuel (← sum fuel)

def comparisonFrom : (fuel : Nat) → Value → Reader Value
  | 0, value => return value
  | fuel + 1, value => do
      match ← nextOf? ["<", "<=", "=", "==", "!=", ">=", ">"] with
      | none => return value
      | some operator =>
          let second ← sum fuel
          comparisonFrom fuel (.number (if compares operator value second then 1 else 0))

def sum : (fuel : Nat) → Reader Value
  | 0 => throw .notANumber
  | fuel + 1 => do sumFrom fuel (← product fuel)

def sumFrom : (fuel : Nat) → Value → Reader Value
  | 0, value => return value
  | fuel + 1, value => do
      match ← nextOf? ["+", "-"] with
      | none => return value
      | some operator =>
          let second ← product fuel
          let (m, n) ← numbers value second
          sumFrom fuel (.number (if operator = "+" then m + n else m - n))

def product : (fuel : Nat) → Reader Value
  | 0 => throw .notANumber
  | fuel + 1 => do productFrom fuel (← search fuel)

def productFrom : (fuel : Nat) → Value → Reader Value
  | 0, value => return value
  | fuel + 1, value => do
      match ← nextOf? ["*", "/", "%"] with
      | none => return value
      | some operator =>
          let second ← search fuel
          let (m, n) ← numbers value second
          if operator = "*" then productFrom fuel (.number (m * n))
          else if n = 0 then throw .divisionByZero
          else productFrom fuel (.number (if operator = "/" then m.tdiv n else m.tmod n))

def search : (fuel : Nat) → Reader Value
  | 0 => throw .notANumber
  | fuel + 1 => do searchFrom fuel (← function fuel)

def searchFrom : (fuel : Nat) → Value → Reader Value
  | 0, value => return value
  | fuel + 1, value => do
      match ← nextOf? [":"] with
      | none => return value
      | some _ =>
          let pattern ← function fuel
          searchFrom fuel (← matching value.shown pattern.shown)

def function : (fuel : Nat) → Reader Value
  | 0 => throw .notANumber
  | fuel + 1 => do
      match ← nextOf? ["+", "length", "match", "index", "substr"] with
      | some "+" => return .text (← next)
      | some "length" => return .number (← function fuel).shown.length
      | some "match" =>
          let text ← function fuel
          let pattern ← function fuel
          matching text.shown pattern.shown
      | some "index" =>
          let text ← function fuel
          let others ← function fuel
          return .number (indexOf text.shown others.shown)
      | some "substr" =>
          let text ← function fuel
          let first ← function fuel
          let length ← function fuel
          match first.number?, length.number? with
          | some first, some length => return .text (partOf text.shown first length)
          | _, _ => return .text []
      | _ => value fuel

def value : (fuel : Nat) → Reader Value
  | 0 => throw .notANumber
  | fuel + 1 => do
      let word ← next
      if word = ['('] then
        let found ← either fuel
        match (← get).rest with
        | [] => throw (.notClosed (← get).last)
        | closing :: _ =>
            if closing = [')'] then
              discard next
              return found
            else throw (.notClosedBy closing)
      else if word = [')'] then throw (.unexpected [')'])
      else return .text word

end

def evaluate (words : List Octets) : Except Problem Value := do
  let (found, state) ← (either (16 * words.length + 16)).run ⟨[], words⟩
  match state.rest with
  | [] => return found
  | extra :: _ => throw (.unexpected extra)

end Expr

def expr : Tool := fun name arguments => do
  let words := if arguments.head? = some ['-', '-'] then arguments.drop 1 else arguments
  match words with
  | [] =>
      discard (misused name "missing operand")
      return 2
  | words =>
      if words = ["--help".toList] || words = ["--version".toList] then return 0
      else
        match Expr.evaluate words with
        | .error problem =>
            discard (complainAs name problem.message)
            return 2
        | .ok found =>
            let status ← writeOut name (found.shown ++ ['\n'])
            return if status ≠ 0 then 3 else if found.isNull then 1 else 0

end ModeSwitch.Host.Shell.Tools
