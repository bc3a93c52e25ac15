import ModeSwitch.Host.Shell.Search

/-! Reading search patterns.

A search pattern is written in one of two ways: in the basic one, groups, choices and counts have a
backslash in front of them, and in the extended one they have none.
-/

namespace ModeSwitch.Host.Shell.Search

/-- Why a text is no search pattern. -/
inductive Problem where
  /-- Nothing follows an opening bracket. -/
  | nothingInBrackets
  | bracketNotClosed
  | groupNotClosed
  | groupNotOpened
  | countNotClosed
  | wrongCount
  | largeCount
  | nothingRepeated
  | trailingBackslash
  | noSuchGroup
  | wrongRange
  | noSuchKind
  /-- A kind is named without a second pair of brackets. -/
  | kindOutsideBrackets
  deriving DecidableEq, Repr

def Problem.message : Problem → String
  | .nothingInBrackets => "Invalid regular expression"
  | .bracketNotClosed => "Unmatched [, [^, [:, [., or [="
  | .groupNotClosed => "Unmatched ( or \\("
  | .groupNotOpened => "Unmatched ) or \\)"
  | .countNotClosed => "Unmatched \\\x7b"
  | .wrongCount => "Invalid content of \\\x7b\\\x7d"
  | .largeCount => "Regular expression too big"
  | .nothingRepeated => "Invalid preceding regular expression"
  | .trailingBackslash => "Trailing backslash"
  | .noSuchGroup => "Invalid back reference"
  | .wrongRange => "Invalid range end"
  | .noSuchKind => "Invalid character class name"
  | .kindOutsideBrackets => "character class syntax is [[:space:]], not [:space:]"

/-- What the reader of a search pattern has before it. -/
structure ReaderState where
  rest : Octets
  /-- The number of groups that have been opened. -/
  opened : Nat
  /-- The numbers of the groups that have been closed. -/
  closed : List Nat

abbrev Reader := StateT ReaderState (Except Problem)

namespace Reader

def peek : Reader (Option Char) :=
  return (← get).rest.head?

def skip (count : Nat) : Reader Unit :=
  modify fun state => { state with rest := state.rest.drop count }

/-! ## Sets -/

/-- A member of a set: a byte, or some ranges of bytes. -/
inductive Member where
  | byte (c : Char)
  | ranges (ranges : List (Char × Char))

/-- Reads a member of a set that stands between brackets with a mark of its own. -/
def markedMember? : Reader (Option Member) := do
  match (← get).rest with
  | '[' :: mark :: rest =>
      if !":.=".contains mark then return none
      else
        let name := rest.takeWhile (· ≠ mark)
        match rest.drop name.length with
        | _ :: ']' :: later =>
            modify fun state => { state with rest := later }
            if mark = ':' then
              match Form.kinds.lookup (String.ofList name) with
              | some belongs => return some (.ranges (ByteSet.rangesOf belongs))
              | none => throw .noSuchKind
            else
              match name with
              | [c] => return some (.byte c)
              | _ => throw .wrongRange
        | _ => throw .bracketNotClosed
  | _ => return none

def member : Reader Member := do
  match ← markedMember? with
  | some member => return member
  | none =>
      match ← peek with
      | some c =>
          skip 1
          return .byte c
      | none => throw .bracketNotClosed

/-- Reads the members of a set up to its closing bracket, at most `fuel` of them. -/
def members : (fuel : Nat) → (isFirst : Bool) → Reader (List (Char × Char))
  | 0, _ => throw .bracketNotClosed
  | fuel + 1, isFirst => do
      if (← peek) = some ']' && !isFirst then
        skip 1
        return []
      else
        match ← member with
        | .ranges ranges => return ranges ++ (← members fuel false)
        | .byte first =>
            match (← get).rest with
            | '-' :: c :: _ =>
                if c = ']' then return (first, first) :: (← members fuel false)
                else
                  skip 1
                  match ← member with
                  | .byte last =>
                      if last < first then throw .wrongRange
                      else return (first, last) :: (← members fuel false)
                  | .ranges _ => throw .wrongRange
            | _ => return (first, first) :: (← members fuel false)

/-- Reads a set; its opening bracket has been read. -/
def set : Reader ByteSet := do
  let isNegated := (← peek) = some '^'
  if isNegated then skip 1
  let text := (← get).rest
  if text = [] then throw .nothingInBrackets
  let ranges ← members (text.length + 1) true
  let written := text.take (text.length - (← get).rest.length)
  if !isNegated && 2 < written.length && written.head? = some ':'
      && written.dropLast.getLast? = some ':' then
    throw .kindOutsideBrackets
  return ⟨isNegated, ranges⟩

/-! ## Counts -/

def number? : Reader (Option Nat) := do
  let digits := (← get).rest.takeWhile Char.isDigit
  skip digits.length
  if digits = [] then return none
  else return some (digits.foldl (fun n c => n * 10 + (c.toNat - '0'.toNat)) 0)

def maxCount : Nat := 32767

def count (isExtended : Bool) : Reader (Nat × Option Nat) := do
  let first ← number?
  let (least, most) ←
    if (← peek) = some ',' then do
      skip 1
      pure (first.getD 0, ← number?)
    else
      match first with
      | some n => pure (n, some n)
      | none => if (← peek).isNone then throw .countNotClosed else throw .wrongCount
  let ending := if isExtended then ['\x7d'] else ['\\', '\x7d']
  let rest := (← get).rest
  if !ending.isPrefixOf rest then
    if rest = [] || rest = ['\\'] then throw .countNotClosed else throw .wrongCount
  skip ending.length
  if most.any (· < least) then throw .wrongCount
  else if maxCount < least || most.any (maxCount < ·) then throw .largeCount
  else return (least, most)

def isCount (text : Octets) : Bool :=
  let first := text.takeWhile Char.isDigit
  match text.drop first.length with
  | '\x7d' :: _ => first ≠ []
  | ',' :: rest => (rest.dropWhile Char.isDigit).head? = some '\x7d'
  | _ => false

/-! ## Parts -/

/-- What comes next in a search pattern. -/
inductive Token where
  | part (search : Search)
  | star
  | plus
  | option
  | countOpen
  | groupOpen
  | groupClose
  | bar
  | start
  | finish
  | back (number : Nat)
  | setOpen
  | end
  deriving DecidableEq, Repr

def token (isExtended : Bool) (text : Octets) : Except Problem (Token × Nat) :=
  match text with
  | [] => .ok (.end, 0)
  | ['\\'] => .error .trailingBackslash
  | '\\' :: c :: _ =>
      let token : Token :=
        if c.isDigit && c ≠ '0' then .back (c.toNat - '0'.toNat)
        else
          match c with
          | 'w' => .part (.byte .word)
          | 'W' => .part (.byte ByteSet.word.inverse)
          | 's' => .part (.byte .blank)
          | 'S' => .part (.byte ByteSet.blank.inverse)
          | 'b' => .part (.wordEdge true)
          | 'B' => .part (.wordEdge false)
          | '<' => .part .wordStart
          | '>' => .part .wordEnd
          | '\x60' => .part .textStart
          | '\'' => .part .textEnd
          | c =>
              if isExtended then .part (.byte (.single c))
              else
                match c with
                | '(' => .groupOpen
                | ')' => .groupClose
                | '\x7b' => .countOpen
                | '|' => .bar
                | '+' => .plus
                | '?' => .option
                | c => .part (.byte (.single c))
      .ok (token, 2)
  | c :: rest =>
      let token : Token :=
        match c with
        | '.' => .part (.byte .all)
        | '[' => .setOpen
        | '*' => .star
        | '^' => .start
        | '$' => .finish
        | '\n' => .bar
        | c =>
            if !isExtended then .part (.byte (.single c))
            else
              match c with
              | '(' => .groupOpen
              | ')' => .groupClose
              | '|' => .bar
              | '+' => .plus
              | '?' => .option
              | '\x7b' => if isCount rest then .countOpen else .part (.byte (.single c))
              | c => .part (.byte (.single c))
      .ok (token, 1)

def endsBranch (isExtended : Bool) (text : Octets) : Bool :=
  match token isExtended text with
  | .ok (.end, _) | .ok (.bar, _) | .ok (.groupClose, _) => true
  | _ => false

def repetition? : Token → Option (Nat × Option Nat)
  | .star => some (0, none)
  | .plus => some (1, none)
  | .option => some (0, some 1)
  | _ => none

mutual

/-- Reads branches up to the end, or to the end of the group. -/
def branches (isExtended : Bool) : (fuel : Nat) → (inGroup : Bool) → Reader Search
  | 0, _ => throw .groupNotClosed
  | fuel + 1, inGroup => do
      let first ← branch isExtended fuel inGroup true none
      match ← token isExtended (← get).rest with
      | (.bar, length) =>
          skip length
          return .choice first (← branches isExtended fuel inGroup)
      | _ => return first

/-- Reads a branch behind a part of it, which comes last and may still be repeated. -/
def branch (isExtended : Bool) : (fuel : Nat) → (inGroup isFirst : Bool) → (last : Option Search) →
    Reader Search
  | 0, _, _, _ => throw .groupNotClosed
  | fuel + 1, inGroup, isFirst, last => do
      let text := (← get).rest
      let (found, length) ← token isExtended text
      let behind (part : Search) : Reader Search := do
        let rest ← branch isExtended fuel inGroup false (some part)
        return match last with
          | some last => .row last rest
          | none => rest
      let close : Reader Search := return last.getD .empty
      match found with
      | .end => if inGroup then throw .groupNotClosed else close
      | .bar => close
      | .groupClose =>
          if inGroup then close
          else if isExtended then throw .groupNotOpened
          else throw .groupNotOpened
      | .part part =>
          skip length
          behind part
      | .start =>
          skip length
          if isExtended || isFirst then
            if isExtended then behind .lineStart
            else
              let rest ← branch isExtended fuel inGroup true none
              return .row .lineStart rest
          else behind (.byte (.single '^'))
      | .finish =>
          skip length
          if isExtended || endsBranch isExtended (← get).rest then behind .lineEnd
          else behind (.byte (.single '$'))
      | .setOpen =>
          skip length
          behind (.byte (← set))
      | .back number =>
          skip length
          if (← get).closed.contains number then behind (.again number) else throw .noSuchGroup
      | .groupOpen =>
          skip length
          let number := (← get).opened + 1
          modify fun state => { state with opened := number }
          let inner ← branches isExtended fuel true
          match ← token isExtended (← get).rest with
          | (.groupClose, length) =>
              skip length
              modify fun state => { state with closed := number :: state.closed }
              behind (.group number inner)
          | _ => throw .groupNotClosed
      | .countOpen =>
          skip length
          match last with
          | none => throw .nothingRepeated
          | some part =>
              let (least, most) ← count isExtended
              branch isExtended fuel inGroup false (some (.repeated part least most))
      | .star | .plus | .option =>
          skip length
          match last, repetition? found with
          | some part, some (least, most) =>
              branch isExtended fuel inGroup false (some (.repeated part least most))
          | _, _ =>
              if isExtended then branch isExtended fuel inGroup isFirst none
              else behind (.byte (.single ((text.take length).getLast?.getD '*')))

end

end Reader

/-- The search pattern that a text writes, in the extended way or in the basic one. -/
def ofText (isExtended : Bool) (text : Octets) : Except Problem Search := do
  let (search, state) ← (Reader.branches isExtended (2 * text.length + 4) false).run ⟨text, 0, []⟩
  if state.rest = [] then return search else throw .groupNotOpened

end ModeSwitch.Host.Shell.Search
