import ModeSwitch.Host.Shell.Search.Reader
import ModeSwitch.Host.Shell.Tools.Given

/-! The program that tells the lines which a search pattern matches. -/

namespace ModeSwitch.Host.Shell.Tools

structure LineChoice where
  patterns : List Search
  mode : Search.Mode
  /-- Must a match begin and end with a word? -/
  isOfWords : Bool
  /-- Must a match be the whole line? -/
  isOfLines : Bool
  isInverse : Bool

namespace LineChoice

def accepts (choice : LineChoice) (first last : Search.Spot) : Bool :=
  if choice.isOfLines then first.before.isEmpty && last.rest.isEmpty
  else
    !choice.isOfWords || (!first.isBehindWord && !last.isBeforeWord)

/-- The first match behind a spot; of several at one place the longest. -/
def find? (choice : LineChoice) (spot : Search.Spot) : Option (Search.Spot × Search.Spot) :=
  let found := choice.patterns.filterMap fun pattern =>
    pattern.findWith choice.mode choice.accepts (spot.rest.length + 1) spot
  found.foldl (fun best other =>
    match best with
    | none => some other
    | some best =>
        let isBetter :=
          best.1.rest.length < other.1.rest.length
            || (best.1.rest.length = other.1.rest.length && other.2.rest.length < best.2.rest.length)
        some (if isBetter then other else best)) none

def chooses (choice : LineChoice) (line : Octets) : Bool :=
  (choice.find? (.start line)).isSome ≠ choice.isInverse

/-- The matches in a line that are not empty, at most `fuel` of them. -/
def matched (choice : LineChoice) : (fuel : Nat) → Search.Spot → List Octets
  | 0, _ => []
  | fuel + 1, spot =>
      match choice.find? spot with
      | none => []
      | some (first, last) =>
          let text := first.textTo last
          if text = [] then
            match last.next? with
            | some (_, next) => choice.matched fuel next
            | none => []
          else text :: choice.matched fuel last

end LineChoice

structure LineTelling where
  withName : Bool
  withNumber : Bool
  /-- Are only the matches told? -/
  onlyMatches : Bool
  /-- How many lines are told before and behind one. -/
  before : Nat
  after : Nat
  /-- How many lines are told at most. -/
  most : Option Nat

namespace LineTelling

/-- What stands in front of a line: its file and its number. -/
def head (telling : LineTelling) (title : Octets) (number : Nat) (mark : Char) : Octets :=
  (if telling.withName then title ++ [mark] else [])
    ++ if telling.withNumber then Number.text number ++ [mark] else []

def lines (telling : LineTelling) (choice : LineChoice) (title text : Octets) : Octets × Nat :=
  let lines := ((linesOf text).map withoutEnd).zipIdx 1
  let chosen := lines.filter fun (line, _) => choice.chooses line
  let chosen := chosen.take (telling.most.getD chosen.length)
  let numbers := chosen.map (·.2)
  let hasContext := telling.before ≠ 0 || telling.after ≠ 0
  let shown := lines.filter fun (_, n) =>
    numbers.any fun number => number ≤ n + telling.before && n ≤ number + telling.after
  let told := shown.map fun (line, n) =>
    let isChosen := numbers.contains n
    let head := telling.head title n (if isChosen then ':' else '-')
    let previous := shown.any fun (_, m) => m + 1 = n
    let isFirst := shown.head?.any (·.2 = n)
    let gap := if hasContext && !previous && !isFirst then "--\n".toList else []
    if telling.onlyMatches then
      if choice.isInverse then []
      else (choice.matched (line.length + 1) (.start line)).flatMap (head ++ · ++ ['\n'])
    else gap ++ head ++ line ++ ['\n']
  (told.flatten, chosen.length)

end LineTelling

def grepOptions : Known :=
  ⟨"EFGPe:f:ivwxclLqsnhHom:A:B:C:yaUzTrR", [("extended-regexp", 'E'), ("fixed-strings", 'F'),
    ("basic-regexp", 'G'), ("regexp", 'e'), ("file", 'f'), ("ignore-case", 'i'), ("invert-match", 'v'),
    ("word-regexp", 'w'), ("line-regexp", 'x'), ("count", 'c'), ("files-with-matches", 'l'),
    ("files-without-match", 'L'), ("quiet", 'q'), ("silent", 'q'), ("no-messages", 's'),
    ("line-number", 'n'), ("no-filename", 'h'), ("with-filename", 'H'), ("only-matching", 'o'),
    ("max-count", 'm'), ("after-context", 'A'), ("before-context", 'B'), ("context", 'C'),
    ("text", 'a')], 2⟩

def grepTrouble : Nat := 2

def tellGrepUsage (name : Octets) : Act Nat := do
  tell ("Usage: ".toList ++ name ++ " [OPTION]... PATTERNS [FILE]...\n".toList)
  tellOfHelp name
  return grepTrouble

/-- The search patterns that are asked for and the operands that are left, or the exit code if there is
something wrong with them. -/
def grepPatterns (name : Octets) (given : Given) : Act (Except Nat (List Octets × List Octets)) := do
  let mut texts := (given.options.filter (·.1 = 'e')).flatMap fun option => piecesAt '\n' option.2
  for option in given.options.filter (·.1 = 'f') do
    match ← readOperand option.2 with
    | .ok text => texts := texts ++ (linesOf text).map withoutEnd
    | .error cause =>
        discard (complainAs name (String.ofList option.2 ++ ": " ++ cause.words))
        return .error grepTrouble
  if given.options.any fun option => option.1 = 'e' || option.1 = 'f' then
    return .ok (texts, given.operands)
  else
    match given.operands with
    | [] => return .error (← tellGrepUsage name)
    | text :: operands => return .ok (piecesAt '\n' text, operands)

def grepFiles (name : Octets) (given : Given) (choice : LineChoice) (operands : List Octets) :
    Act Nat := do
  let count (letter : Char) : Option Nat := (given.argument? letter).bind Number.count?
  let context := (count 'C').getD 0
  let telling : LineTelling :=
    ⟨(given.has 'H' || 1 < operands.length) && !given.has 'h', given.has 'n', given.has 'o',
      (count 'B').getD context, (count 'A').getD context, count 'm'⟩
  let mut isFound := false
  let mut isTroubled := false
  for operand in operands do
    let title := if isInput operand then "(standard input)".toList else operand
    if given.has 'q' && isFound then continue
    match ← readOperand operand with
    | .error cause =>
        isTroubled := true
        if !given.has 's' then
          discard (complainAs name (String.ofList title ++ ": " ++ cause.words))
    | .ok text =>
        let (told, number) := telling.lines choice title text
        if number ≠ 0 then isFound := true
        let shown :=
          if given.has 'q' then []
          else if given.has 'l' then (if number ≠ 0 then title ++ ['\n'] else [])
          else if given.has 'L' then (if number = 0 then title ++ ['\n'] else [])
          else if given.has 'c' then
            (if telling.withName then title ++ [':'] else []) ++ Number.text number ++ ['\n']
          else told
        let status ← writeOut name shown
        if status ≠ 0 then isTroubled := true
  if isTroubled && !(given.has 'q' && isFound) then return grepTrouble
  else return if isFound then 0 else 1

def grep : Tool := fun name arguments => do
  match Given.read grepOptions true (arguments.length + 1) arguments with
  | .error problem =>
      discard (complainAs name problem)
      tellGrepUsage name
  | .ok given =>
      if given.has Given.helpLetter then return 0
      else
        match ← grepPatterns name given with
        | .error status => return status
        | .ok (texts, operands) =>
            let kind := given.options.reverse.find? fun option => "EFGP".contains option.1
            let pattern (text : Octets) : Except Search.Problem Search :=
              match kind.map (·.1) with
              | some 'F' => .ok (.ofPlain text)
              | some 'E' | some 'P' => Search.ofText true text
              | _ => Search.ofText false text
            match texts.mapM pattern with
            | .error problem =>
                discard (complainAs name problem.message)
                return grepTrouble
            | .ok patterns =>
                let mode : Search.Mode := ⟨given.has 'i' || given.has 'y', false⟩
                let choice : LineChoice :=
                  ⟨patterns, mode, given.has 'w', given.has 'x', given.has 'v'⟩
                grepFiles name given choice (orInput operands)

end ModeSwitch.Host.Shell.Tools
