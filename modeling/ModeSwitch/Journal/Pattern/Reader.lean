import ModeSwitch.Journal.Pattern
import ModeSwitch.Text.Blank
import ModeSwitch.Text.Letter

/-! Reading patterns.

The reader goes through a pattern from left to right.  Where a flag says so, blanks and comments
between the parts of a pattern do not count.  A count of repetitions is never complete, since it would
end with a closing brace, and the patterns that are read here stand between braces themselves.
-/

namespace ModeSwitch.Pattern

/-- What the reader of a pattern has before it, and what it knows. -/
structure ReaderState where
  rest : List Char
  /-- Do blanks and comments not count? -/
  isSpaced : Bool
  /-- The names of groups so far. -/
  names : List (List Char)

/-- Reads a part of a pattern, or finds that there is none. -/
abbrev Reader := StateT ReaderState Option

namespace Reader

def peek : Reader (Option Char) :=
  return (← get).rest.head?

def skip : Reader Unit :=
  modify fun state => { state with rest := state.rest.drop 1 }

/-- What follows blanks and comments; a comment ends with its line. -/
def afterBlanks (inComment : Bool) : List Char → List Char
  | [] => []
  | c :: rest =>
      if inComment then afterBlanks (c ≠ '\n') rest
      else if Text.isBlank c then afterBlanks false rest
      else if c = '#' then afterBlanks true rest
      else c :: rest

def skipBlanks : Reader Unit :=
  modify fun state =>
    if state.isSpaced then { state with rest := afterBlanks false state.rest } else state

def advance : Reader Unit := do
  skip
  skipBlanks

def skipText (text : String) : Reader Bool := do
  let state ← get
  if text.toList.isPrefixOf state.rest then
    set { state with rest := state.rest.drop text.length }
    return true
  else return false

def next : Reader Char := do
  match ← peek with
  | some c => return c
  | none => failure

/-! ## Escapes -/

/-- What one character of a pattern, or an escape, stands for. -/
inductive Primitive where
  | literal (char : PatternChar)
  | anyChar
  | edge
  | wordEdge
  | kind (isNegated : Bool)
  | property
  deriving DecidableEq, Repr

def hexValue? (c : Char) : Option Nat :=
  if c.isDigit then some (c.toNat - '0'.toNat)
  else if 'a' ≤ c && c ≤ 'f' then some (c.toNat - 'a'.toNat + 10)
  else if 'A' ≤ c && c ≤ 'F' then some (c.toNat - 'A'.toNat + 10)
  else none

def hexDigits (value : Nat) : Nat → Reader Nat
  | 0 => return value
  | count + 1 => do
      let some digit := hexValue? (← next) | failure
      advance
      hexDigits (value * 16 + digit) count

def numbered (count : Nat) : Reader Primitive := do
  advance
  let value ← hexDigits 0 count
  if value < 0xD800 || (0xDFFF < value && value ≤ 0x10FFFF) then
    return .literal ⟨Char.ofNat value, count = 2⟩
  else failure

/-- The character that one behind a backslash stands for.  Letters and digits have a sense of their
own there, or may get one. -/
def escapedChar? (c : Char) : Option Char :=
  match c with
  | 'a' => some '\x07'
  | 'f' => some '\x0c'
  | 't' => some '\t'
  | 'n' => some '\n'
  | 'r' => some '\r'
  | 'v' => some '\x0b'
  | '<' | '>' => none
  | c => if c.toNat < 0x80 && !c.isAlphanum then some c else none

/-- Reads what stands behind a backslash, which comes next. -/
def escape : Reader Primitive := do
  skip
  let c ← next
  if c = 'x' then numbered 2
  else if c = 'u' then numbered 4
  else if c = 'U' then numbered 8
  else if c = 'p' || c = 'P' then
    advance
    let name ← next
    advance
    if name = '\\' || name = '\x7b' then failure else return .property
  else
    skip
    match escapedChar? c with
    | some char => return .literal ⟨char, false⟩
    | none =>
        if c = 'd' || c = 's' || c = 'w' then return .kind false
        else if c = 'D' || c = 'S' || c = 'W' then return .kind true
        else if c = 'A' || c = 'z' then return .edge
        else if c = 'b' || c = 'B' || c = '<' || c = '>' then return .wordEdge
        else failure

/-! ## Classes -/

def Primitive.item? : Primitive → Option ClassItem
  | .literal char => some (.literal char)
  | .kind isNegated => some (.kind isNegated)
  | .property => some .property
  | .anyChar | .edge | .wordEdge => none

/-- Reads a character of a class, or an escape. -/
def classPrimitive : Reader Primitive := do
  let c ← next
  if c = '\\' then escape
  else
    skip
    return .literal ⟨c, false⟩

/-- The character behind the next one, without blanks that do not count and the mark of a comment. -/
def peekBehind : Reader (Option Char) := do
  let state ← get
  let rest := state.rest.drop 1
  if !state.isSpaced then return rest.head?
  else
    match rest.dropWhile Text.isBlank with
    | '#' :: rest => return (rest.dropWhile Text.isBlank).head?
    | rest => return rest.head?

/-- Reads a member of a class: a character, an escape, or a range of characters. -/
def classItem : Reader ClassItem := do
  let first ← classPrimitive
  skipBlanks
  let isRange := (← next) = '-'
  let behind ← peekBehind
  if !isRange || behind = some ']' || behind = some '-' then
    let some item := first.item? | failure
    return item
  else
    advance
    match first, ← classPrimitive with
    | .literal first, .literal last =>
        if first.char ≤ last.char then return .range first last else failure
    | _, _ => failure

def kindNames : List String :=
  ["alnum", "alpha", "ascii", "blank", "cntrl", "digit", "graph", "lower", "print", "punct", "space",
    "upper", "word", "xdigit"]

/-- Reads a kind by its name, between brackets and colons, if one comes next. -/
def namedKind? : Reader (Option ClassItem) := do
  let state ← get
  match state.rest with
  | '[' :: ':' :: rest =>
      let isNegated := rest.head? = some '^'
      let rest := if isNegated then rest.drop 1 else rest
      let name := rest.takeWhile (· ≠ ':')
      match rest.drop name.length with
      | ':' :: ']' :: rest =>
          if kindNames.contains (String.ofList name) then
            set { state with rest }
            return some (.named isNegated)
          else return none
      | _ => return none
  | _ => return none

/-- A set of members of a class, behind sets that an operator combines it with. -/
def closeSet (before : Option (SetOperator × ClassSet)) (items : List ClassItem) : ClassSet :=
  let last : ClassSet := match items with
    | [item] => .item item
    | items => .item (.union items.reverse)
  match before with
  | some (operator, left) => .combined operator left last
  | none => last

/-- Reads dashes at the beginning of a class, where they stand for themselves; at most `count`. -/
def leadingDashes (items : List ClassItem) : (count : Nat) → Reader (List ClassItem)
  | 0 => return items
  | count + 1 => do
      if (← next) = '-' then
        advance
        leadingDashes (.literal ⟨'-', false⟩ :: items) count
      else return items

/-- Reads the operator that comes next, if there is one. -/
def operator? : Reader (Option SetOperator) := do
  if ← skipText "&&" then return some .intersection
  else if ← skipText "--" then return some .difference
  else if ← skipText "~~" then return some .symmetricDifference
  else return none

mutual

/-- Reads a class, whose opening bracket comes next: whether it is a complement, and its set. -/
def charClass : (fuel : Nat) → Reader (Bool × ClassSet)
  | 0 => failure
  | fuel + 1 => do
      advance
      let isNegated := (← next) = '^'
      if isNegated then advance
      let dashes ← leadingDashes [] (← get).rest.length
      if dashes.isEmpty && (← next) = ']' then
        advance
        return (isNegated, ← classMembers fuel none [.literal ⟨']', false⟩])
      else return (isNegated, ← classMembers fuel none dashes)

/-- Reads the members of a class up to its closing bracket, behind others, which stand in reverse. -/
def classMembers : (fuel : Nat) → Option (SetOperator × ClassSet) → List ClassItem →
    Reader ClassSet
  | 0, _, _ => failure
  | fuel + 1, before, items => do
      skipBlanks
      match ← next with
      | '[' =>
          match ← namedKind? with
          | some item => classMembers fuel before (item :: items)
          | none =>
              let (isNegated, set) ← charClass fuel
              classMembers fuel before (.nested isNegated set :: items)
      | ']' =>
          skip
          return closeSet before items
      | _ =>
          match ← operator? with
          | some operator => classMembers fuel (some (operator, closeSet before items)) []
          | none => classMembers fuel before ((← classItem) :: items)

end

/-! ## Groups -/

def flagOf? : Char → Option PatternFlag
  | 'i' => some .caseless
  | 'm' => some .linewise
  | 's' => some .dotsTakeLines
  | 'U' => some .reluctant
  | 'R' => some .returns
  | 'u' => some .characters
  | 'x' => some .spaced
  | _ => none

/-- The flags that letters stand for.  Those behind a dash are cleared; none may come twice. -/
def flagsOf? (isSet : Bool) (flags : PatternFlags) : List Char → Option PatternFlags
  | [] => some flags
  | '-' :: rest => if isSet && rest ≠ [] then flagsOf? false flags rest else none
  | c :: rest => do
      let flag ← flagOf? c
      if flags.any (·.1 = flag) then none else flagsOf? isSet (flags ++ [(flag, isSet)]) rest

/-- Reads the name of a group up to its closing bracket.  No two groups have the same name. -/
def groupName : Reader Unit := do
  let state ← get
  let name := state.rest.takeWhile (· ≠ '>')
  let begins (c : Char) : Bool := c = '_' || Text.isLetter c
  let continues (c : Char) : Bool :=
    c = '_' || c = '.' || c = '[' || c = ']' || Text.isLetterOrDigit c
  match name, state.rest.drop name.length with
  | first :: others, _ :: rest =>
      if begins first && others.all continues && !state.names.contains name then
        set { state with rest, names := name :: state.names }
      else failure
  | _, _ => failure

def applySpacing (flags : PatternFlags) : Reader Unit :=
  modify fun state => { state with isSpaced := (flags.lookup .spaced).getD state.isSpaced }

/-- What stands at the beginning of a group. -/
inductive GroupHead where
  /-- The flags of a group that has contents. -/
  | group (flags : PatternFlags)
  /-- The flags for what follows, instead of a group. -/
  | switch (flags : PatternFlags)
  deriving DecidableEq, Repr

/-- Reads the beginning of a group, whose opening bracket comes next.  Nothing can be asked about
what stands before or behind a place. -/
def groupHead : Reader GroupHead := do
  advance
  if ← ["?=", "?!", "?<=", "?<!"].anyM skipText then failure
  else if ← ["?P<", "?<"].anyM skipText then
    groupName
    return .group []
  else if ← skipText "?" then
    let state ← get
    let letters := state.rest.takeWhile fun c => c ≠ ':' && c ≠ ')'
    let some flags := flagsOf? true [] letters | failure
    match state.rest.drop letters.length with
    | ':' :: rest =>
        set { state with rest }
        return .group flags
    | ')' :: rest =>
        set { state with rest }
        if letters = [] then failure else return .switch flags
    | _ => failure
  else return .group []

/-- The pattern of items one after another, which stand in reverse. -/
def rowOf : List Pattern → Pattern
  | [] => .empty
  | [item] => item
  | items => .row items.reverse

/-- The pattern of branches, of which the last one is still a list of items; all stand in reverse. -/
def choiceOf (branches items : List Pattern) : Pattern :=
  match branches with
  | [] => rowOf items
  | branches => .choice (rowOf items :: branches).reverse

def Primitive.pattern : Primitive → Pattern
  | .literal char => .literal char
  | .anyChar => .anyChar
  | .edge => .edge
  | .wordEdge => .wordEdge
  | .kind isNegated => .kind isNegated
  | .property => .property

/-- Reads a character outside a class, or an escape. -/
def primitive : Reader Primitive := do
  match ← next with
  | '\\' => escape
  | c =>
      skip
      if c = '.' then return .anyChar
      else if c = '^' || c = '$' then return .edge
      else return .literal ⟨c, false⟩

/-- Repeats the last of some items, which stand in reverse.  Neither nothing nor flags can be
repeated. -/
def repeatLast? : List Pattern → Option (List Pattern)
  | [] | .switch _ :: _ => none
  | item :: items => some (.repeated item :: items)

mutual

/-- Reads branches up to the end of the group, or of the pattern, behind others. -/
def branches : (fuel : Nat) → (branches items : List Pattern) → Reader Pattern
  | 0, _, _ => failure
  | fuel + 1, before, items => do
      skipBlanks
      match ← peek with
      | none | some ')' => return choiceOf before items
      | some '(' => branches fuel before ((← group fuel) :: items)
      | some '|' =>
          skip
          branches fuel (rowOf items :: before) []
      | some '[' =>
          let (isNegated, set) ← charClass fuel
          branches fuel before (.oneOf isNegated set :: items)
      | some '*' | some '+' | some '?' =>
          skip
          let _ ← skipText "?"
          let some items := repeatLast? items | failure
          branches fuel before items
      | some '\x7b' => failure
      | some _ => branches fuel before ((← primitive).pattern :: items)

def group : (fuel : Nat) → Reader Pattern
  | 0 => failure
  | fuel + 1 => do
      let outside := (← get).isSpaced
      match ← groupHead with
      | .switch flags =>
          applySpacing flags
          return .switch flags
      | .group flags =>
          applySpacing flags
          let pattern ← branches fuel [] []
          if ← skipText ")" then
            modify fun state => { state with isSpaced := outside }
            return .group flags pattern
          else failure

end

end Reader

def ofText? (text : List Char) : Option Pattern := do
  let (pattern, state) ← (Reader.branches (2 * text.length + 2) [] []).run ⟨text, false, []⟩
  if state.rest = [] then some pattern else none

end ModeSwitch.Pattern
