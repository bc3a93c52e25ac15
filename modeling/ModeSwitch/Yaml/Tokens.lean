import ModeSwitch.Yaml.Token.Block
import ModeSwitch.Yaml.Token.Tag
import ModeSwitch.Yaml.Token.Text

/-! The tokens of a text.

Indentation is told by tokens: one where a line begins a block collection, and one where a
collection ends because a line is indented less.  A key needs no mark of its own.  Every place
where one may begin is remembered as a candidate until a colon follows on the same line, and then
the tokens that announce a key are put in front of it.  A token at or behind a candidate is not
settled yet: if the text turns out to be faulty, it is never seen.
-/

namespace ModeSwitch.Yaml

/-- A place where a key may have begun. -/
structure Candidate where
  position : Position
  /-- The number of tokens in front of it. -/
  index : Nat
  /-- Must it be a key?  So it is where the entries of a block mapping stand. -/
  isRequired : Bool
  deriving DecidableEq, Repr

/-- The state of reading tokens. -/
structure Scan where
  cursor : Cursor
  /-- The tokens so far, latest first. -/
  tokens : List Token
  count : Nat
  /-- The candidate in the innermost flow collection, or in the block outside of all of them. -/
  candidate : Option Candidate
  /-- The candidates around the innermost flow collection, innermost first. -/
  outer : List (Option Candidate)
  /-- May a key begin here? -/
  allowsKey : Bool
  /-- The columns of the open block collections, innermost first. -/
  columns : List Nat
  /-- The number of tokens that are settled. -/
  settled : Nat

namespace Scan

def ofChars (chars : List Char) : Scan :=
  ⟨.ofChars chars, [], 0, none, [], true, [], 0⟩

def inFlow (scan : Scan) : Bool :=
  !scan.outer.isEmpty

def column (scan : Scan) : Nat :=
  scan.cursor.position.column

def problem (scan : Scan) (fault : Fault) : Problem :=
  ⟨fault, scan.cursor.position, none⟩

def add (scan : Scan) (token : Token) : Scan :=
  { scan with tokens := token :: scan.tokens, count := scan.count + 1 }

def insert (scan : Scan) (index : Nat) (token : Token) : Scan :=
  let back := scan.count - index
  { scan with
    tokens := scan.tokens.take back ++ token :: scan.tokens.drop back, count := scan.count + 1 }

/-- Adds the token of the next `length` characters and goes on behind them. -/
def addMark (scan : Scan) (length : Nat) (kind : TokenKind) : Scan :=
  let after := scan.cursor.skip length
  ({ scan with cursor := after }).add ⟨kind, scan.cursor.position, after.position⟩

def addRead (scan : Scan) (read : Token × Cursor) : Scan :=
  ({ scan with cursor := read.2 }).add read.1

/-! ## Candidates -/

/-- The report of a candidate that must be a key and is none. -/
def colonProblem (scan : Scan) (candidate : Candidate) : Problem :=
  scan.cursor.problem .colonMissing .simpleKey candidate.position

def dropCandidate (scan : Scan) : Except Problem Scan :=
  match scan.candidate.filter (·.isRequired) with
  | some candidate => .error (scan.colonProblem candidate)
  | none => .ok { scan with candidate := none }

/-- Remembers the cursor as a place where a key may begin, if one may. -/
def noteCandidate (scan : Scan) : Except Problem Scan :=
  if scan.allowsKey then do
    let isRequired := !scan.inFlow && scan.columns.head? = some scan.column
    let scan ← scan.dropCandidate
    return { scan with candidate := some ⟨scan.cursor.position, scan.count, isRequired⟩ }
  else .ok scan

/-- The greatest distance between the beginning of a key and its colon. -/
def maxKeyLength : Nat := 1024

/-- Can the candidate no longer be a key?  A key stands on one line and is not too long. -/
def isStale (position : Position) (candidate : Candidate) : Bool :=
  candidate.position.line < position.line
    || candidate.position.offset + maxKeyLength < position.offset

/-- Gives up the candidates that can no longer be keys.  Of those that must be, the outermost is
reported. -/
def dropStale (scan : Scan) : Except Problem Scan :=
  let isStale := isStale scan.cursor.position
  let stale := (scan.candidate :: scan.outer).reverse.reduceOption.filter isStale
  match stale.find? (·.isRequired) with
  | some candidate => .error (scan.colonProblem candidate)
  | none =>
      let keep (candidate : Option Candidate) := candidate.filter fun c => !isStale c
      .ok { scan with candidate := keep scan.candidate, outer := scan.outer.map keep }

/-- Counts as settled all tokens in front of the first candidate. -/
def settle (scan : Scan) : Scan :=
  let first := (scan.candidate :: scan.outer).reduceOption.foldl (fun n c => min n c.index)
    scan.count
  { scan with settled := first }

/-! ## Indentation -/

/-- Begins a block collection at a position, unless one is open at that column or a later one. -/
def openBlock (scan : Scan) (kind : TokenKind) (index : Nat) (position : Position) : Scan :=
  if scan.inFlow || scan.columns.head?.any (position.column ≤ ·) then scan
  else
    ({ scan with columns := position.column :: scan.columns }).insert index
      ⟨kind, position, position⟩

def endBlocks (scan : Scan) : Nat → Scan
  | 0 => scan
  | n + 1 => (scan.add ⟨.blockEnd, scan.cursor.position, scan.cursor.position⟩).endBlocks n

/-- Ends the block collections that are indented further than `column`; all of them if there is
none. -/
def closeBlocks (scan : Scan) (column : Option Nat) : Scan :=
  if scan.inFlow then scan
  else
    let isInside (c : Nat) : Bool := column.all (· < c)
    let closed := scan.columns.takeWhile isInside
    ({ scan with columns := scan.columns.dropWhile isInside }).endBlocks closed.length

/-! ## One token -/

/-- Skips blanks, comments and line breaks.  A tab is skipped only where no key can begin, or in a
flow collection; a byte order mark, only at the start of a line.  Behind a line break of a block a
key may begin; whether one may is told beside the cursor. -/
def skipGap (inFlow allowsKey inComment : Bool) : Position → List Char → Bool × Cursor
  | position, [] => (allowsKey, ⟨[], position⟩)
  | position, c :: rest =>
      let next := position.after c
      if isBreak c then skipGap inFlow (allowsKey || !inFlow) false next rest
      else if inComment || c = ' ' || (c = '\t' && (inFlow || !allowsKey))
          || (c = byteOrderMark && position.column = 0) then
        skipGap inFlow allowsKey inComment next rest
      else if c = '#' then skipGap inFlow allowsKey true next rest
      else (allowsKey, ⟨c :: rest, position⟩)

def toNext (scan : Scan) : Scan :=
  let (allowsKey, cursor) :=
    skipGap scan.inFlow scan.allowsKey false scan.cursor.position scan.cursor.rest
  { scan with allowsKey, cursor }

/-- Ends the text, as if on a line of its own. -/
def addStreamEnd (scan : Scan) : Except Problem Scan := do
  let position := scan.cursor.position
  let position : Position :=
    if position.column = 0 then position else ⟨position.offset, position.line + 1, 0⟩
  let scan := { scan with cursor := ⟨[], position⟩ }
  let scan ← (scan.closeBlocks none).dropCandidate
  return { scan with allowsKey := false }.add ⟨.streamEnd, position, position⟩

def addDirective (scan : Scan) : Except Problem Scan := do
  let scan ← (scan.closeBlocks none).dropCandidate
  return { scan with allowsKey := false }.addRead (← readDirective scan.cursor)

def addDocumentMark (scan : Scan) (kind : TokenKind) : Except Problem Scan := do
  let scan ← (scan.closeBlocks none).dropCandidate
  return { scan with allowsKey := false }.addMark 3 kind

/-- Begins a flow collection, which may itself be a key. -/
def openFlow (scan : Scan) (kind : TokenKind) : Except Problem Scan := do
  let scan ← scan.noteCandidate
  return { scan with
    candidate := none, outer := scan.candidate :: scan.outer, allowsKey := true }.addMark 1 kind

def closeFlow (scan : Scan) (kind : TokenKind) : Except Problem Scan := do
  let scan ← scan.dropCandidate
  let scan := match scan.outer with
    | [] => scan
    | candidate :: outer => { scan with candidate, outer }
  return { scan with allowsKey := false }.addMark 1 kind

def addComma (scan : Scan) : Except Problem Scan := do
  let scan ← scan.dropCandidate
  return { scan with allowsKey := true }.addMark 1 .comma

/-- Begins a block collection of a kind at the cursor, where a key must be allowed. -/
def openBlockHere (scan : Scan) (kind : TokenKind) (fault : Fault) : Except Problem Scan :=
  if scan.inFlow then .ok scan
  else if scan.allowsKey then .ok (scan.openBlock kind scan.count scan.cursor.position)
  else .error (scan.problem fault)

def addEntry (scan : Scan) : Except Problem Scan := do
  let scan ← scan.openBlockHere .blockSequenceStart .entryNotAllowed
  let scan ← scan.dropCandidate
  return { scan with allowsKey := true }.addMark 1 .entry

def addKey (scan : Scan) : Except Problem Scan := do
  let scan ← scan.openBlockHere .blockMappingStart .keyNotAllowed
  let scan ← scan.dropCandidate
  return { scan with allowsKey := !scan.inFlow }.addMark 1 .key

/-- Reads a colon.  The candidate in front of it becomes a key. -/
def addValue (scan : Scan) : Except Problem Scan :=
  match scan.candidate with
  | some candidate =>
      let scan := scan.insert candidate.index ⟨.key, candidate.position, candidate.position⟩
      let scan := scan.openBlock .blockMappingStart candidate.index candidate.position
      .ok ({ scan with candidate := none, allowsKey := false }.addMark 1 .value)
  | none => do
      let scan ← scan.openBlockHere .blockMappingStart .valueNotAllowed
      return { scan with allowsKey := !scan.inFlow }.addMark 1 .value

/-- Reads a token at which a key may begin, but behind which none may. -/
def addContent (scan : Scan) (read : Except Problem (Token × Cursor)) : Except Problem Scan := do
  let scan ← scan.noteCandidate
  return { scan with allowsKey := false }.addRead (← read)

def addBlock (scan : Scan) (folds : Bool) : Except Problem Scan := do
  let scan ← scan.dropCandidate
  return { scan with allowsKey := true }.addRead
    (← readBlock folds scan.columns.head? scan.cursor)

/-- Reads a plain scalar.  If it ends with its line, a key may begin on the next one. -/
def addPlain (scan : Scan) : Except Problem Scan := do
  let scan ← scan.noteCandidate
  let leastColumn := (scan.columns.head?.map (· + 1)).getD 0
  let (token, after, endsWithBreak) ← readPlain scan.inFlow leastColumn scan.cursor
  return { scan with allowsKey := endsWithBreak }.addRead (token, after)

def beginsPlain (scan : Scan) (c : Char) (rest : List Char) : Bool :=
  if c = '-' then !rest.head?.any isBlank
  else if c = '?' || c = ':' then !scan.inFlow && !endsWord rest
  else !isGap c && !",[]\x7b\x7d#&*!|>'\"%@\x60".contains c

def addToken (scan : Scan) (c : Char) (rest : List Char) : Except Problem Scan :=
  let atStart := scan.column == 0
  let isLone := scan.inFlow || endsWord rest
  if atStart && c == '%' then scan.addDirective
  else if atStart && isDocumentMark '-' (c :: rest) then scan.addDocumentMark .documentStart
  else if atStart && isDocumentMark '.' (c :: rest) then scan.addDocumentMark .documentEnd
  else if c = '[' then scan.openFlow .sequenceStart
  else if c = '\x7b' then scan.openFlow .mappingStart
  else if c = ']' then scan.closeFlow .sequenceEnd
  else if c = '\x7d' then scan.closeFlow .mappingEnd
  else if c = ',' then scan.addComma
  else if c = '-' && endsWord rest then scan.addEntry
  else if c = '?' && isLone then scan.addKey
  else if c = ':' && isLone then scan.addValue
  else if c = '*' then scan.addContent (readName .alias .alias scan.cursor)
  else if c = '&' then scan.addContent (readName .anchor .anchor scan.cursor)
  else if c = '!' then scan.addContent (readTag scan.inFlow scan.cursor)
  else if c = '|' && !scan.inFlow then scan.addBlock false
  else if c = '>' && !scan.inFlow then scan.addBlock true
  else if c = '\'' then scan.addContent (readQuoted .single scan.cursor)
  else if c = '"' then scan.addContent (readQuoted .double scan.cursor)
  else if scan.beginsPlain c rest then scan.addPlain
  else .error (scan.cursor.problem .noTokenStart .nextToken scan.cursor.position)

def advance (scan : Scan) : Except Problem Scan := do
  let scan ← scan.toNext.dropStale
  let scan := scan.closeBlocks (some scan.column)
  let scan ← match scan.cursor.rest with
    | [] => scan.addStreamEnd
    | c :: rest => scan.addToken c rest
  return (← scan.dropStale).settle

end Scan

/-- The tokens of a text, as far as they are settled, and what made the reading stop, if it did not
come to the end. -/
structure Tokens where
  tokens : List Token
  problem : Option Problem
  deriving DecidableEq, Repr

namespace Tokens

/-- The settled tokens of a state, with what made the reading stop. -/
def ofScan (scan : Scan) (problem : Option Problem) : Tokens :=
  ⟨(scan.tokens.drop (scan.count - scan.settled)).reverse, problem⟩

/-- Reads on up to the end of the text, or at most `fuel` tokens. -/
def readFrom : (fuel : Nat) → Scan → Tokens
  | 0, scan => .ofScan scan none
  | fuel + 1, scan =>
      match scan.advance with
      | .error problem => .ofScan scan (some problem)
      | .ok next =>
          if next.tokens.head?.any (·.kind = .streamEnd) then .ofScan next none
          else readFrom fuel next

/-- The tokens of a text.  Every token but the last takes at least one character. -/
def ofText (text : String) : Tokens :=
  match sourceOf text with
  | .error problem => ⟨[], some problem⟩
  | .ok chars => readFrom (chars.length + 1) (.ofChars chars)

end Tokens

end ModeSwitch.Yaml
