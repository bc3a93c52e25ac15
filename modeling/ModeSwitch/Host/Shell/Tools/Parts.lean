import ModeSwitch.Host.Shell.Tools.Given

/-! Programs that take parts of texts, measure texts, or put texts side by side. -/

namespace ModeSwitch.Host.Shell.Tools

/-! ## Beginnings and ends -/

def signedCount? (text : Octets) : Option (Option Char × Nat) :=
  match text with
  | c :: rest =>
      if c = '-' || c = '+' then (Number.count? rest).map (some c, ·)
      else (Number.count? text).map (none, ·)
  | [] => none

def withLineCount (arguments : List Octets) : List Octets :=
  match arguments with
  | ('-' :: c :: digits) :: rest =>
      if c.isDigit && digits.all Char.isDigit then ['-', 'n'] :: (c :: digits) :: rest
      else arguments
  | _ => arguments

def partOptions : Known :=
  ⟨"n:c:qvf", [("lines", 'n'), ("bytes", 'c'), ("quiet", 'q'), ("silent", 'q'), ("verbose", 'v')], 1⟩

/-- Tells of each file a part that is a count of lines or bytes, with its name if there are several. -/
def partsOfFiles (part : (sign : Option Char) → (count : Nat) → List Octets → List Octets)
    (name : Octets) (given : Given) : Act Nat := do
  let byLines := (given.argument? 'c').isNone
  let text := ((given.argument? 'c').orElse fun _ => given.argument? 'n').getD ['1', '0']
  match signedCount? text with
  | none =>
      complainAs name ("invalid number of " ++ (if byLines then "lines" else "bytes") ++ ": "
        ++ named text)
  | some (sign, count) =>
      let operands := orInput given.operands
      let hasTitles := given.has 'v' || (1 < operands.length && !given.has 'q')
      let mut status := 0
      let mut isFirst := true
      for operand in operands do
        match ← readOperand operand with
        | .error cause => status ← complainAs name (unopened operand cause)
        | .ok text =>
            let title := if isInput operand then "standard input".toList else operand
            let before := if isFirst then [] else ['\n']
            let header :=
              if hasTitles then before ++ "==> ".toList ++ title ++ " <==\n".toList else []
            let pieces := if byLines then linesOf text else text.map ([·])
            isFirst := false
            status := max status (← writeOut name (header ++ (part sign count pieces).flatten))
      return status

def head : Tool := fun name arguments =>
  withOptions partOptions (partsOfFiles fun sign count pieces =>
    pieces.take (if sign = some '-' then pieces.length - count else count))
    name (withLineCount arguments)

def tail : Tool := fun name arguments =>
  withOptions partOptions (partsOfFiles fun sign count pieces =>
    pieces.drop (if sign = some '+' then count - 1 else pieces.length - count))
    name (withLineCount arguments)

/-! ## Sizes -/

/-- The numbers of lines, words, characters and bytes of a text, and the length of its longest line. -/
def counts (text : Octets) : List Nat :=
  let words := (text.foldl (fun (count, inWord) c =>
    if Number.isBlank c then (count, false) else (if inWord then count else count + 1, true))
    (0, false)).1
  let longest := ((linesOf text).map fun line => (withoutEnd line).length).foldl max 0
  [text.count '\n', words, text.length, text.length, longest]

/-- The number of bytes of what an operand stands for, if it is a file like any other. -/
def sizeOf? (state : State) (operand : Octets) : Option Nat :=
  if isInput operand then
    match state.channelAt? standardInput with
    | some (.file place _ _ _ _) => some (state.fileBytes place).length
    | _ => none
  else
    match state.tree.locate state.directory (Octets.text operand) with
    | .ok (_, some (.file bytes)) => some bytes.length
    | .ok (_, some (.program _)) => some FileTree.programBytes.length
    | _ => none

def isThere (state : State) (operand : Octets) : Bool :=
  if isInput operand then true
  else
    match state.tree.locate state.directory (Octets.text operand) with
    | .ok (_, some _) => true
    | _ => false

def usualCountWidth : Nat := 7

def wc : Tool :=
  withOptions ⟨"lwmcL", [("lines", 'l'), ("words", 'w'), ("chars", 'm'), ("bytes", 'c'),
    ("max-line-length", 'L')], 1⟩ fun name given => do
    let asked := "lwmcL".toList.map given.has
    let wanted := if asked.any id then asked else [true, true, false, true, false]
    let isSingle := (wanted.filter id).length = 1
    let operands := orInput given.operands
    let state ← get
    let sizes := (operands.filter (isThere state)).map (sizeOf? state)
    let known : Nat := (sizes.filterMap id).foldl (· + ·) 0
    let width :=
      if isSingle && operands.length = 1 then 1
      else
        max (if sizes.any (·.isNone) then usualCountWidth else 1)
          (Number.text known).length
    let row (numbers : List Nat) (title : Octets) : Octets :=
      let shown := ((numbers.zip wanted).filter (·.2)).map fun (n, _) => rightward width n
      Octets.joined [' '] shown ++ title ++ ['\n']
    let mut status := 0
    let mut total := [0, 0, 0, 0, 0]
    for operand in operands do
      let title := if given.operands.isEmpty then [] else ' ' :: operand
      match ← readOperand operand with
      | .ok text =>
          let numbers := counts text
          total := (total.zip numbers).zipIdx.map fun ((a, b), n) => if n = 4 then max a b else a + b
          status := max status (← writeOut name (row numbers title))
      | .error cause =>
          status ← complainAs name (unreadable operand cause)
          if cause = .isDirectory then discard (writeOut name (row [0, 0, 0, 0, 0] title))
    if 1 < operands.length then
      status := max status (← writeOut name (row total " total".toList))
    return status

/-! ## Cutting -/

/-- Why a list of ranges cannot be read. -/
inductive RangeProblem where
  | zero
  | decreasing
  | empty
  | invalid (part : Octets)
  deriving DecidableEq, Repr

def range? (part : Octets) : Except RangeProblem (Nat × Option Nat) := do
  let number (text : Octets) : Except RangeProblem Nat :=
    match Number.count? text with
    | some 0 => .error .zero
    | some n => .ok n
    | none => .error (.invalid part)
  let first := part.takeWhile (· ≠ '-')
  let rest := part.drop first.length
  let last := rest.drop 1
  if rest = [] then
    let n ← number first
    return (n, some n)
  else if first = [] && last = [] then throw .empty
  else
    let first ← if first = [] then pure 1 else number first
    if last = [] then return (first, none)
    else
      let last ← number last
      if last < first then throw .decreasing else return (first, some last)

def ranges? (text : Octets) : Except RangeProblem (List (Nat × Option Nat)) :=
  (piecesAt ',' (text.map fun c => if c = ' ' || c = '\t' then ',' else c)).mapM range?

def inRanges (ranges : List (Nat × Option Nat)) (n : Nat) : Bool :=
  ranges.any fun (first, last) => first ≤ n && last.all (n ≤ ·)

def RangeProblem.message (byFields : Bool) : RangeProblem → String
  | .zero =>
      if byFields then "fields are numbered from 1" else "byte/character positions are numbered from 1"
  | .decreasing => "invalid decreasing range"
  | .empty => "invalid range with no endpoint: -"
  | .invalid part =>
      (if byFields then "invalid field value " else "invalid byte/character position ") ++ named part

/-- What parts of lines are cut out. -/
structure Cutting where
  byFields : Bool
  ranges : List (Nat × Option Nat)
  isInverse : Bool
  separator : Char
  /-- Are lines without a separator left out? -/
  needsSeparator : Bool
  /-- What stands between the parts. -/
  between : Octets

namespace Cutting

def part (cutting : Cutting) (line : Octets) : Octets :=
  let line := withoutEnd line
  let chosen {α : Type} (items : List α) : List α :=
    ((items.zipIdx 1).filter fun (_, n) => inRanges cutting.ranges n ≠ cutting.isInverse).map (·.1)
  if !cutting.byFields then chosen line ++ ['\n']
  else if !line.contains cutting.separator then
    if cutting.needsSeparator then [] else line ++ ['\n']
  else Octets.joined cutting.between (chosen (piecesAt cutting.separator line)) ++ ['\n']

/-- What is asked for, or what is wrong with it. -/
def ofGiven (given : Given) : Except String Cutting := do
  let lists := given.options.filter fun option => "bcf".contains option.1
  let separator := given.argument? 'd'
  match lists with
  | [] => throw "you must specify a list of bytes, characters, or fields"
  | [(letter, list)] =>
      let byFields := letter = 'f'
      let ranges ← (ranges? list).mapError (·.message byFields)
      match separator with
      | some (_ :: _ :: _) => throw "the delimiter must be a single character"
      | some _ =>
          if !byFields then
            throw "an input delimiter may be specified only when operating on fields"
      | none => pure ()
      if given.has 's' && !byFields then
        throw "suppressing non-delimited lines makes sense\n\tonly when operating on fields"
      let separator := (separator.bind (·.head?)).getD (if separator.isSome then '\x00' else '\t')
      return ⟨byFields, ranges, given.has 'i', separator, given.has 's',
        (given.argument? 'o').getD [separator]⟩
  | _ => throw "only one list may be specified"

end Cutting

def cut : Tool :=
  withOptions ⟨"b:c:f:d:so:ni", [("bytes", 'b'), ("characters", 'c'), ("fields", 'f'),
    ("delimiter", 'd'), ("only-delimited", 's'), ("output-delimiter", 'o'), ("complement", 'i')], 1⟩
    fun name given =>
    match Cutting.ofGiven given with
    | .error problem => misused name problem
    | .ok cutting =>
        readOperands name unreadable (fun _ text =>
          writeOut name ((linesOf text).flatMap cutting.part)) (orInput given.operands)

def foldedLine (width : Nat) (line : Octets) : (steps : Nat) → Octets
  | 0 => line
  | steps + 1 =>
      if line.length ≤ width then line
      else line.take width ++ '\n' :: foldedLine width (line.drop width) steps

def fold : Tool :=
  withOptions ⟨"bsw:", [("bytes", 'b'), ("spaces", 's'), ("width", 'w')], 1⟩ fun name given => do
    let width := (given.argument? 'w').getD ['8', '0']
    match (Number.count? width).filter (0 < ·) with
    | none => complainAs name ("invalid number of columns: " ++ named width)
    | some width =>
        readOperands name unreadable (fun _ text =>
          writeOut name ((linesOf text).flatMap fun line =>
            let inner := withoutEnd line
            foldedLine width inner inner.length ++ line.drop inner.length))
          (orInput given.operands)

/-! ## Side by side -/

/-- Rows made of the first lines, the second lines, and so on, with separators used in turn. -/
def pastedRows (separators : Octets) : (rows : Nat) → List (List Octets) → Octets
  | 0, _ => []
  | rows + 1, columns =>
      if columns.all (·.isEmpty) then []
      else
        let cells := columns.map fun column => column.head?.getD []
        let row := cells.zipIdx.flatMap fun (cell, n) =>
          let separator := separators[(n - 1) % max separators.length 1]?.toList
          (if n = 0 then [] else separator) ++ cell
        row ++ '\n' :: pastedRows separators rows (columns.map List.tail)

/-- Puts the lines of files side by side, or all lines of each file into one. -/
def paste : Tool :=
  withOptions ⟨"d:s", [("delimiters", 'd'), ("serial", 's')], 1⟩ fun name given => do
    let separators := (given.argument? 'd').getD ['\t']
    let mut columns : List (List Octets) := []
    for operand in orInput given.operands do
      match ← readOperand operand with
      | .ok text => columns := columns ++ [(linesOf text).map withoutEnd]
      | .error cause => return ← complainAs name (unreadable operand cause)
    let rows := (columns.map List.length).foldl max 0
    if given.has 's' then
      let flat := columns.flatMap fun column =>
        if column.isEmpty then ['\n'] else pastedRows separators 1 (column.map ([·]))
      writeOut name flat
    else writeOut name (pastedRows separators rows columns)

end ModeSwitch.Host.Shell.Tools
