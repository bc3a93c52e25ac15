import ModeSwitch.Host.Shell.Builtin.Texts
import ModeSwitch.Host.Shell.Tools.Given

/-! Programs that take words for what they are: texts, numbers, conditions, paths. -/

namespace ModeSwitch.Host.Shell.Tools

/-! ## Texts -/

/-- Is the argument one that asks not to end the line, or the like? -/
def isEchoOption (argument : Octets) : Bool :=
  match argument with
  | '-' :: letters => letters ≠ [] && letters.all fun c => c = 'n' || c = 'e' || c = 'E'
  | _ => false

def echo : Tool := fun name arguments => do
  let options := arguments.takeWhile isEchoOption
  let text := Octets.joined [' '] (arguments.drop options.length)
  let letters := options.flatten
  let isEscaped := letters.reverse.find? (fun c => c = 'e' || c = 'E') = some 'e'
  let unescaped :=
    if isEscaped then unescape (text.length + 1) text else ⟨text, false⟩
  let ending := if letters.contains 'n' || unescaped.isEnd then [] else ['\n']
  writeOut name (unescaped.text ++ ending)

def numeralProblem (argument : Octets) : NumeralFault → String
  | .noNumber => quotedName argument ++ ": expected a numeric value"
  | .notConverted => quotedName argument ++ ": value not completely converted"
  | .outOfRange => quotedName argument ++ ": Numerical result out of range"

def printf : Tool := fun name arguments => do
  match if arguments.head? = some ['-', '-'] then arguments.drop 1 else arguments with
  | [] => misused name "missing operand"
  | layout :: rest =>
      let formatted := format layout rest
      let mut status := 0
      for (argument, fault) in formatted.faults do
        status ← complainAs name (numeralProblem argument fault)
      status := max status (← writeOut name formatted.text)
      match formatted.broken, formatted.arguments with
      | some directive, _ =>
          complainAs name (String.ofList directive.text ++ ": invalid conversion specification")
      | none, extra :: _ =>
          if !formatted.isEnd then
            discard (complainAs name ("warning: ignoring excess arguments, starting with "
              ++ quotedName extra))
          return status
      | none, [] => return status

/-! ## Conditions -/

def conditionProblem (words : List Octets) : Condition.Problem → String
  | .notNumber word => "invalid integer " ++ named word
  | .operandMissing operator => "missing argument after " ++ named operator
  | .notClosed => "')' expected"
  | .notJoined _ next =>
      match words.dropWhile (· = ['!']) with
      | [['-', letter], _] => named ['-', letter] ++ ": unary operator expected"
      | [_, last] => "missing argument after " ++ named last
      | [_, second, _] => named second ++ ": binary operator expected"
      | _ => "extra argument " ++ named next

def test : Tool := fun name words => do
  match Condition.holds (← get).filesForConditions words with
  | .ok holds => return if holds then 0 else 1
  | .error problem =>
      discard (complainAs name (conditionProblem words problem))
      return 2

def bracket : Tool := fun name arguments => do
  if arguments.getLast? = some [']'] then test name arguments.dropLast
  else
    discard (complainAs name "missing ']'")
    return 2

/-! ## Numbers -/

/-- Does an argument begin with a dash without being a number? -/
def isSeqOption (argument : Octets) : Bool :=
  match argument with
  | '-' :: c :: _ => !(c.isDigit || c = '.')
  | _ => false

def seq : Tool := fun name arguments =>
  let options := arguments.takeWhile isSeqOption
  let hasValue := match options.getLast? with
    | some ['-', 's'] | some ['-', 'f'] => true
    | _ => false
  let options := if hasValue then arguments.take (options.length + 1) else options
  let numbers := arguments.drop options.length
  withOptions ⟨"s:wf:", [("separator", 's'), ("equal-width", 'w'), ("format", 'f')], 1⟩
    (fun name given => do
    let separator := (given.argument? 's').getD ['\n']
    match numbers.find? fun argument => (Number.ofText? argument).isNone with
    | some wrong => misused name ("invalid floating point argument: " ++ named wrong)
    | none =>
        let bounds : Option (Int × Int × Int) := match numbers.filterMap Number.ofText? with
          | [last] => some (1, 1, last)
          | [first, last] => some (first, 1, last)
          | [first, step, last] => some (first, step, last)
          | _ => none
        match bounds, numbers with
        | none, _ :: _ :: _ :: extra :: _ => misused name ("extra operand " ++ named extra)
        | none, _ => misused name "missing operand"
        | some (first, step, last), _ =>
            if step = 0 then
              misused name ("invalid Zero increment value: " ++ named (Number.text step))
            else
              let count := ((last - first) / step + 1).toNat
              let found := (List.range count).map fun (n : Nat) => Number.text (first + step * n)
              let width := (found.map List.length).foldl max 0
              let widened (digits : Octets) : Octets :=
                let zeros := List.replicate (width - digits.length) '0'
                match digits with
                | '-' :: digits => '-' :: zeros ++ digits
                | digits => zeros ++ digits
              let shown := if given.has 'w' then found.map widened else found
              if shown.isEmpty then return 0
              else writeOut name (Octets.joined separator shown ++ ['\n']))
    name options

def sleep : Tool :=
  withOptions ⟨"", [], 1⟩ fun name given => do
    let isInterval (text : Octets) : Bool :=
      let number := if text.getLast?.any ("smhd".contains ·) then text.dropLast else text
      match Fraction.head? number with
      | some (value, rest) => rest = [] && !value.isNegative
      | none => false
    let wrong := given.operands.filter fun operand => !isInterval operand
    match given.operands, wrong.reverse with
    | [], _ => misused name "missing operand"
    | _, [] => return 0
    | _, last :: others =>
        for operand in others.reverse do
          discard (complainAs name ("invalid time interval " ++ named operand))
        misused name ("invalid time interval " ++ named last)

/-! ## Paths -/

def withoutLastSlashes (path : Octets) : Octets :=
  (path.reverse.dropWhile (· = '/')).reverse

def lastName (path : Octets) : Octets :=
  let trimmed := withoutLastSlashes path
  if trimmed = [] then path.take 1 else (trimmed.reverse.takeWhile (· ≠ '/')).reverse

/-- The last name of a path without an ending, unless it is nothing else. -/
def withoutEnding (ending name : Octets) : Octets :=
  let kept := name.length - ending.length
  if ending.length < name.length && name.drop kept = ending then name.take kept else name

/-- Tells the last names of paths, perhaps without an ending. -/
def basename : Tool :=
  withOptions ⟨"as:z", [("multiple", 'a'), ("suffix", 's'), ("zero", 'z')], 1⟩ fun name given => do
    let lineEnd := if given.has 'z' then ['\x00'] else ['\n']
    let ending := (given.argument? 's').getD []
    let all := given.has 'a' || given.has 's'
    match given.operands with
    | [] => misused name "missing operand"
    | [path] => writeOut name (withoutEnding ending (lastName path) ++ lineEnd)
    | path :: second :: more =>
        if all then
          writeOut name (given.operands.flatMap fun path =>
            withoutEnding ending (lastName path) ++ lineEnd)
        else
          match more with
          | [] => writeOut name (withoutEnding second (lastName path) ++ lineEnd)
          | extra :: _ => misused name ("extra operand " ++ named extra)

def directoryOf (path : Octets) : Octets :=
  let trimmed := withoutLastSlashes path
  if trimmed = [] then (if path = [] then ['.'] else ['/'])
  else
    let before := (trimmed.reverse.dropWhile (· ≠ '/')).reverse
    if before = [] then ['.']
    else
      let directory := withoutLastSlashes before
      if directory = [] then ['/'] else directory

def dirname : Tool :=
  withOptions ⟨"z", [("zero", 'z')], 1⟩ fun name given => do
    if given.operands.isEmpty then misused name "missing operand"
    else
      let lineEnd := if given.has 'z' then ['\x00'] else ['\n']
      writeOut name (given.operands.flatMap fun path => directoryOf path ++ lineEnd)

end ModeSwitch.Host.Shell.Tools
