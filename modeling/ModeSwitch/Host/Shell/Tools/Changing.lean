import ModeSwitch.Host.Shell.Form
import ModeSwitch.Host.Shell.Format
import ModeSwitch.Host.Shell.Tools.Given

/-! Programs that replace bytes, and that put lines into order. -/

namespace ModeSwitch.Host.Shell.Tools

/-! ## Bytes -/

/-- The bytes that a set of them stands for: ranges, kinds, and bytes behind backslashes.  At most
`steps` members are read. -/
def membersOf : (steps : Nat) → Octets → Octets
  | 0, _ | _, [] => []
  | steps + 1, '[' :: ':' :: rest =>
      let kind := rest.takeWhile (· ≠ ':')
      match Form.kinds.lookup (String.ofList kind), rest.drop kind.length with
      | some belongs, ':' :: ']' :: rest =>
          ((List.range 256).map Char.ofNat).filter belongs ++ membersOf steps rest
      | _, _ => '[' :: membersOf steps (':' :: rest)
  | steps + 1, '\\' :: c :: rest =>
      let (byte, rest) := if isOctal c then octalMember (c :: rest) else (escapedMember c, rest)
      byte :: membersOf steps rest
  | steps + 1, first :: '-' :: last :: rest =>
      (List.range (last.toNat + 1 - first.toNat)).map (fun n => Char.ofNat (first.toNat + n))
        ++ membersOf steps rest
  | steps + 1, c :: rest => c :: membersOf steps rest
where
  /-- The byte that a letter behind a backslash stands for. -/
  escapedMember (c : Char) : Char :=
    (escapedByte? c).getD c
  /-- The byte that up to three digits stand for, and the rest. -/
  octalMember (text : Octets) : Char × Octets :=
    let (value, rest) := octal 3 0 text
    (Char.ofNat (value % 256), rest)

def wrongRange? : Octets → Option Octets
  | '\\' :: _ :: rest => wrongRange? rest
  | first :: '-' :: last :: rest =>
      if last.toNat < first.toNat then some [first, '-', last]
      else wrongRange? rest
  | _ :: rest => wrongRange? rest
  | [] => none

def squeezed (isSqueezed : Char → Bool) : Octets → Octets
  | a :: b :: rest =>
      if a = b && isSqueezed a then squeezed isSqueezed (b :: rest)
      else a :: squeezed isSqueezed (b :: rest)
  | text => text

/-- What is wrong with the number of sets that bytes are replaced by, and what else is told. -/
def setsProblem? (deletes squeezes : Bool) (sets : List Octets) : Option (String × String) :=
  match sets with
  | [] => some ("missing operand", "")
  | [first] =>
      if deletes && squeezes then
        some ("missing operand after " ++ named first,
          "Two strings must be given when both deleting and squeezing repeats.\n")
      else if deletes || squeezes then none
      else
        some ("missing operand after " ++ named first,
          "Two strings must be given when translating.\n")
  | [_, second] =>
      if deletes && !squeezes then
        some ("extra operand " ++ named second,
          "Only one string may be given when deleting without squeezing repeats.\n")
      else none
  | _ :: _ :: third :: _ => some ("extra operand " ++ named third, "")

def tr : Tool :=
  withOptions ⟨"cCdst", [("complement", 'c'), ("delete", 'd'), ("squeeze-repeats", 's'),
    ("truncate-set1", 't')], 1⟩ fun name given => do
    let sets := given.operands
    let deletes := given.has 'd'
    let squeezes := given.has 's'
    match setsProblem? deletes squeezes sets, sets.findSome? wrongRange? with
    | some (problem, more), _ =>
        discard (complainAs name problem)
        tell more.toList
        tellOfHelp name
        return 1
    | none, some range =>
        complainAs name
          ("range-endpoints of " ++ named range ++ " are in reverse collating sequence order")
    | none, none =>
        let first := sets.head?.getD []
        let members := membersOf (first.length + 1) first
        let members :=
          if given.has 'c' || given.has 'C' then
            ((List.range 256).map Char.ofNat).filter (!members.contains ·)
          else members
        let second := (sets[1]?).getD []
        let others := membersOf (second.length + 1) second
        let translates := sets.length = 2 && !deletes
        if translates && others.isEmpty && !given.has 't' then
          complainAs name "when not truncating set1, string2 must be non-empty"
        else
          let members := if given.has 't' then members.take others.length else members
          let replaced (c : Char) : Char :=
            match (members.reverse.idxOf? c).map (members.length - 1 - ·) with
            | some n => (others[n]?.orElse fun _ => others.getLast?).getD c
            | none => c
          match ← readOperand ['-'] with
          | .error cause => complainAs name ("read error: " ++ cause.words)
          | .ok text =>
              let changed :=
                if deletes then text.filter (!members.contains ·)
                else if translates then text.map replaced
                else text
              let kept := if sets.length = 2 then others else members
              writeOut name (if squeezes then squeezed kept.contains changed else changed)

/-! ## Order -/

structure Comparing where
  byNumber : Bool
  ignoresCase : Bool
  /-- Do only letters, digits and blanks count? -/
  byWords : Bool
  isReverse : Bool
  /-- Do blanks at the beginning not count? -/
  skipsBlanks : Bool
  deriving DecidableEq, Repr

namespace Comparing

def ofLetters (letters : Octets) : Comparing :=
  ⟨letters.contains 'n', letters.contains 'f', letters.contains 'd', letters.contains 'r',
    letters.contains 'b'⟩

/-- The whole digits and the digits of the fraction of a number at the head of a text, and whether it
is below zero. -/
def numberAt (text : Octets) : Bool × Octets × Octets :=
  let text := text.dropWhile fun c => c = ' ' || c = '\t'
  let isNegative := text.head? = some '-'
  let text := if isNegative then text.drop 1 else text
  let whole := text.takeWhile Char.isDigit
  let fraction := match text.drop whole.length with
    | '.' :: rest => rest.takeWhile Char.isDigit
    | _ => []
  (isNegative, whole.dropWhile (· = '0'), (fraction.reverse.dropWhile (· = '0')).reverse)

def numbers (a b : Octets) : Ordering :=
  let (aNegative, aWhole, aFraction) := numberAt a
  let (bNegative, bWhole, bFraction) := numberAt b
  let aNegative := aNegative && (aWhole ≠ [] || aFraction ≠ [])
  let bNegative := bNegative && (bWhole ≠ [] || bFraction ≠ [])
  let sizes := (compare aWhole.length bWhole.length).then
    ((compare (String.ofList aWhole) (String.ofList bWhole)).then
      (compare (String.ofList aFraction) (String.ofList bFraction)))
  match aNegative, bNegative with
  | false, false => sizes
  | true, true => sizes.swap
  | true, false => .lt
  | false, true => .gt

def order (comparing : Comparing) (a b : Octets) : Ordering :=
  let prepared (text : Octets) : Octets :=
    let text :=
      if comparing.skipsBlanks then text.dropWhile (fun c => c = ' ' || c = '\t') else text
    let text :=
      if comparing.byWords then text.filter fun c => c.isAlphanum || c = ' ' || c = '\t' else text
    if comparing.ignoresCase then text.map Char.toUpper else text
  let found :=
    if comparing.byNumber then numbers a b
    else compare (String.ofList (prepared a)) (String.ofList (prepared b))
  if comparing.isReverse then found.swap else found

end Comparing

/-- A place in a line: a field and a byte in it, counted from one on; byte zero is the end of the
field. -/
structure FieldSpot where
  field : Nat
  byte : Nat
  deriving DecidableEq, Repr

/-- A part of lines by which they are put into order. -/
structure SortKey where
  first : FieldSpot
  last : Option FieldSpot
  /-- How these parts are compared, if it is said for them. -/
  comparing : Option Comparing
  deriving DecidableEq, Repr

namespace SortKey

def number? (text : Octets) : Option (Nat × Octets) :=
  let digits := text.takeWhile Char.isDigit
  (Number.count? digits).map fun n => (n, text.drop digits.length)

def spot? (byte : Nat) (text : Octets) : Option (FieldSpot × Octets × Octets) := do
  let (field, rest) ← number? text
  let (byte, rest) ← match rest with
    | '.' :: rest => number? rest
    | rest => some (byte, rest)
  let letters := rest.takeWhile Char.isAlpha
  return (⟨field, byte⟩, letters, rest.drop letters.length)

def ofText? (text : Octets) : Option SortKey := do
  let (first, letters, rest) ← spot? 1 text
  let (last, more, rest) ← match rest with
    | ',' :: rest => (spot? 0 rest).map fun (spot, letters, rest) => (some spot, letters, rest)
    | rest => some (none, [], rest)
  if rest ≠ [] || first.field = 0 then none
  else
    let letters := letters ++ more
    return ⟨first, last, if letters = [] then none else some (.ofLetters letters)⟩

/-- The fields of a line; without a separator, the blanks in front of a field belong to it. -/
def fieldsOf (separator : Option Char) (line : Octets) : List Octets :=
  match separator with
  | some separator => piecesAt separator line
  | none => line.splitBy fun a b => !(!isBlank a && isBlank b)
where
  /-- Does the byte separate fields? -/
  isBlank (c : Char) : Bool := c = ' ' || c = '\t' || c = '\n'

def lengthBefore (separator : Option Char) (fields : List Octets) (field : Nat) : Nat :=
  let before := fields.take (field - 1)
  (before.map List.length).foldl (· + ·) 0 + if separator.isSome then before.length else 0

def part (separator : Option Char) (skipsBlanks : Bool) (key : SortKey) (line : Octets) : Octets :=
  let fields := fieldsOf separator line
  let blanks (field : Nat) : Nat :=
    if skipsBlanks then
      ((fields[field - 1]?).getD []).takeWhile (fun c => c = ' ' || c = '\t') |>.length
    else 0
  let first :=
    lengthBefore separator fields key.first.field + blanks key.first.field + (key.first.byte - 1)
  let last := match key.last with
    | none => line.length
    | some spot =>
        let start := lengthBefore separator fields spot.field
        if spot.byte = 0 then start + ((fields[spot.field - 1]?).getD []).length
        else start + blanks spot.field + spot.byte
  (line.take last).drop first

end SortKey

/-- How lines are put into order. -/
structure Sorting where
  separator : Option Char
  keys : List SortKey
  comparing : Comparing
  isStable : Bool
  isUnique : Bool

namespace Sorting

def keyOrder (sorting : Sorting) (a b : Octets) : Ordering :=
  if sorting.keys.isEmpty then sorting.comparing.order a b
  else
    sorting.keys.foldl (fun found key =>
      let comparing := key.comparing.getD sorting.comparing
      let part := key.part sorting.separator comparing.skipsBlanks
      found.then (comparing.order (part a) (part b))) .eq

/-- Does a line not come behind another one?  Lines with the same keys are compared as a whole. -/
def isOrdered (sorting : Sorting) (a b : Octets) : Bool :=
  let rest := compare (String.ofList a) (String.ofList b)
  let rest := if sorting.comparing.isReverse then rest.swap else rest
  let isLast := sorting.isStable || sorting.isUnique
  (sorting.keyOrder a b).then (if isLast then .eq else rest) ≠ .gt

def sorted (sorting : Sorting) (lines : List Octets) : List Octets :=
  let inOrder := lines.mergeSort sorting.isOrdered
  if sorting.isUnique then
    (inOrder.splitBy fun a b => sorting.keyOrder a b = .eq).filterMap (·.head?)
  else inOrder

end Sorting

def sort : Tool :=
  withOptions ⟨"nrufdbscCk:t:o:m", [("numeric-sort", 'n'), ("reverse", 'r'), ("unique", 'u'),
    ("ignore-case", 'f'), ("dictionary-order", 'd'), ("ignore-leading-blanks", 'b'), ("stable", 's'),
    ("check", 'c'), ("key", 'k'), ("field-separator", 't'), ("output", 'o'), ("merge", 'm')], 2⟩
    fun name given => do
    let keyTexts := (given.options.filter (·.1 = 'k')).map (·.2)
    let comparing := Comparing.ofLetters (given.options.map (·.1))
    match given.argument? 't', keyTexts.find? fun text => (SortKey.ofText? text).isNone with
    | some [], _ =>
        discard (complainAs name "empty tab")
        return 2
    | some (a :: b :: more), _ =>
        discard (complainAs name ("multi-character tab " ++ named (a :: b :: more)))
        return 2
    | _, some wrong =>
        discard (complainAs name
          ("invalid number at field start: invalid count at start of " ++ named wrong))
        return 2
    | separator, none =>
        let sorting : Sorting :=
          ⟨separator.bind (·.head?), keyTexts.filterMap SortKey.ofText?, comparing, given.has 's',
            given.has 'u'⟩
        let mut lines : List Octets := []
        let mut status := 0
        for operand in orInput given.operands do
          match ← readOperand operand with
          | .ok text => lines := lines ++ (linesOf text).map withoutEnd
          | .error cause =>
              let verb := if cause = .isDirectory then "read failed: " else "cannot read: "
              discard (complainAs name (verb ++ shownName operand ++ ": " ++ cause.words))
              return 2
        if given.has 'c' || given.has 'C' then
          match (lines.zip (lines.drop 1)).zipIdx.find? fun ((a, b), _) => !sorting.isOrdered a b with
          | none => return 0
          | some ((_, line), n) =>
              if given.has 'c' then
                discard (complainAs name ((given.operands.head?.map String.ofList).getD "-" ++ ":"
                  ++ toString (n + 2) ++ ": disorder: " ++ String.ofList line))
              return 1
        else
          status := (← writeOut name ((sorting.sorted lines).flatMap (· ++ ['\n'])))
          return if status = 0 then 0 else 2

/-- Tells lines without those that repeat the one before. -/
def uniq : Tool :=
  withOptions ⟨"cdiuf:s:w:", [("count", 'c'), ("repeated", 'd'), ("ignore-case", 'i'), ("unique", 'u'),
    ("skip-fields", 'f'), ("skip-chars", 's'), ("check-chars", 'w')], 1⟩ fun name given => do
    match given.operands with
    | _ :: _ :: extra :: _ => misused name ("extra operand " ++ named extra)
    | operands =>
        let operand := operands.head?.getD ['-']
        let count (letter : Char) : Option Nat := (given.argument? letter).bind Number.count?
        let skipField (line : Octets) : Octets :=
          (line.dropWhile fun c => c = ' ' || c = '\t').dropWhile fun c => c ≠ ' ' && c ≠ '\t'
        let compared (line : Octets) : Octets :=
          let line := (List.range ((count 'f').getD 0)).foldl (fun line _ => skipField line) line
          let line := line.drop ((count 's').getD 0)
          let line := line.take ((count 'w').getD line.length)
          if given.has 'i' then line.map Char.toLower else line
        match ← readOperand operand with
        | .error cause =>
            let problem :=
              if cause = .isDirectory then
                "error reading " ++ quotedName operand ++ ": " ++ cause.words
              else unreadable operand cause
            complainAs name problem
        | .ok text =>
            let groups :=
              ((linesOf text).map withoutEnd).splitBy fun a b => compared a = compared b
            let shown := groups.filter fun group =>
              (!given.has 'd' || 1 < group.length) && (!given.has 'u' || group.length = 1)
            writeOut name (shown.flatMap fun group =>
              let count := if given.has 'c' then rightward 7 group.length ++ [' '] else []
              count ++ (group.head?.getD []) ++ ['\n'])

end ModeSwitch.Host.Shell.Tools
