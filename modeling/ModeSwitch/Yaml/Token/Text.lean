import ModeSwitch.Yaml.Source
import ModeSwitch.Yaml.Token

/-! Scalars without marks and between quotes.

Such a scalar may run over several lines.  What stands between two of its words is a gap: blanks on
one line stay as they are, one line break becomes a space, and of more line breaks all but the
first are kept.  Blanks around a line break are lost.
-/

namespace ModeSwitch.Yaml

/-! ## Gaps -/

/-- What stands between two words of a scalar. -/
inductive Gap where
  /-- Blanks on one line, latest first. -/
  | blanks (chars : List Char)
  /-- Line breaks, and the blanks around them, which are lost.  There is no first line break if a
  backslash took it; the further ones are kept latest first. -/
  | lines (first : Option Char) (more : List Char)
  deriving DecidableEq, Repr

namespace Gap

def none : Gap := .blanks []

def isBroken : Gap → Bool
  | .blanks _ => false
  | .lines _ _ => true

def add (gap : Gap) (c : Char) : Gap :=
  match gap with
  | .blanks chars => if isBreak c then .lines (some c) [] else .blanks (c :: chars)
  | .lines first more => if isBreak c then .lines first (c :: more) else gap

/-- What becomes of the gap in the text. -/
def folded : Gap → List Char
  | .blanks chars => chars.reverse
  | .lines (some '\n') [] => [' ']
  | .lines (some '\n') more => more.reverse
  | .lines first more => first.toList ++ more.reverse

end Gap

/-! ## Plain scalars -/

/-- A plain scalar as it was read. -/
structure PlainText where
  /-- Its characters, latest first. -/
  chars : List Char
  /-- The position after its last character. -/
  stop : Position
  /-- What comes after it and the gap that follows it. -/
  after : Cursor
  /-- Does a line break follow it? -/
  endsWithBreak : Bool

structure PlainPlace where
  begun : Position
  inFlow : Bool
  /-- The least column of its further lines, outside of flow collections. -/
  leastColumn : Nat

namespace PlainPlace

/-- Does a plain scalar end before these characters, which follow a gap at a position? -/
def endsAfterGap (place : PlainPlace) (position : Position) (chars : List Char) : Bool :=
  (!place.inFlow && position.column < place.leastColumn)
    || (position.column == 0 && isAnyDocumentMark chars)
    || chars.head? == some '#'

/-- Does a plain scalar end before the character `c`, which is no blank, and the ones after it? -/
def endsBefore (place : PlainPlace) (c : Char) (rest : List Char) : Bool :=
  (c == ':' && endsWord rest) || (place.inFlow && ",[]\x7b\x7d".contains c)

/-- Is `c` a colon that may not stand in a flow collection, because of what comes after it? -/
def isBadColon (place : PlainPlace) (c : Char) (rest : List Char) : Bool :=
  place.inFlow && c == ':' && rest.head?.any fun d => ",?[]\x7b\x7d".contains d

def read (place : PlainPlace) (done : List Char) (stop : Position) (gap : Gap) :
    Position → List Char → Except Problem PlainText
  | position, [] => .ok ⟨done, stop, ⟨[], position⟩, gap.isBroken⟩
  | position, c :: rest =>
      let finished : PlainText := ⟨done, stop, ⟨c :: rest, position⟩, gap.isBroken⟩
      if isGap c then
        if gap.isBroken && c == '\t' && position.column < place.leastColumn then
          .error ⟨.tabInText, position, some (.plainText, place.begun)⟩
        else place.read done stop (gap.add c) (position.after c) rest
      else if gap != .none && place.endsAfterGap position (c :: rest) then .ok finished
      else if place.isBadColon c rest then
        .error ⟨.colonInFlow, position, some (.plainText, place.begun)⟩
      else if place.endsBefore c rest then .ok finished
      else
        place.read (c :: gap.folded.reverse ++ done) (position.after c) .none
          (position.after c) rest

end PlainPlace

/-- Reads a plain scalar; the cursor is at its first character.  Also tells whether a line break
follows it. -/
def readPlain (inFlow : Bool) (leastColumn : Nat) (cursor : Cursor) :
    Except Problem (Token × Cursor × Bool) := do
  let begun := cursor.position
  let place : PlainPlace := ⟨begun, inFlow, leastColumn⟩
  let read ← place.read [] begun .none begun cursor.rest
  return (⟨.scalar (String.ofList read.chars.reverse) .plain, begun, read.stop⟩, read.after,
    read.endsWithBreak)

/-! ## Quoted scalars -/

/-- The two kinds of quotes.  Only between double quotes a backslash escapes. -/
inductive Quotes where
  | single
  | double
  deriving DecidableEq, Repr

def Quotes.mark : Quotes → Char
  | .single => '\''
  | .double => '"'

def escapedChar? : Char → Option Char
  | '0' => some '\x00'
  | 'a' => some '\x07'
  | 'b' => some '\x08'
  | 't' | '\t' => some '\t'
  | 'n' => some '\n'
  | 'v' => some '\x0b'
  | 'f' => some '\x0c'
  | 'r' => some '\r'
  | 'e' => some '\x1b'
  | ' ' => some ' '
  | '"' => some '"'
  | '/' => some '/'
  | '\\' => some '\\'
  | 'N' => some '\u0085'
  | '_' => some '\u00a0'
  | 'L' => some '\u2028'
  | 'P' => some '\u2029'
  | _ => none

def escapeLength? : Char → Option Nat
  | 'x' => some 2
  | 'u' => some 4
  | 'U' => some 8
  | _ => none

def hexNumber? (value : Nat) : Nat → List Char → Option Nat
  | 0, _ => some value
  | _ + 1, [] => none
  | count + 1, c :: rest =>
      match hexValue? c with
      | some digit => hexNumber? (value * 16 + digit) count rest
      | none => none

/-- The character with a number, if there is one. -/
def charOfNumber? (n : Nat) : Option Char :=
  if h : n.isValidChar then some (Char.ofNatAux n h) else none

structure QuotedPlace where
  begun : Position
  quotes : Quotes

namespace QuotedPlace

def problem (place : QuotedPlace) (fault : Fault) (activity : Activity) (position : Position) :
    Problem :=
  ⟨fault, position, some (activity, place.begun)⟩

/-- What the characters behind a backslash stand for, and how many they are.  The backslash is at
`position`. -/
def readEscape (place : QuotedPlace) (position : Position) :
    List Char → Except Problem (Char × Nat)
  | [] => .error (place.problem .escapeUnknown .quotedEscape position)
  | letter :: rest =>
      match escapedChar? letter, escapeLength? letter with
      | some c, _ => .ok (c, 1)
      | none, none => .error (place.problem .escapeUnknown .quotedEscape position)
      | none, some count =>
          let digits := (position.after '\\').after letter
          match hexNumber? 0 count rest with
          | none => .error (place.problem .hexMissing .quotedEscape digits)
          | some n =>
              match charOfNumber? n with
              | none => .error (place.problem .codePointInvalid .quotedEscape digits)
              | some c => .ok (c, 1 + count)

def isEscape (place : QuotedPlace) (c : Char) : Bool :=
  place.quotes = .double && c = '\\'

/-- Reads on in a quoted scalar, up to its closing quote: its characters, latest first, and what
comes after it. -/
def read (place : QuotedPlace) (done : List Char) (gap : Gap) (position : Position) :
    List Char → Except Problem (List Char × Cursor)
  | [] => .error (place.problem .endInQuotes .quotedText position)
  | c :: rest =>
      let next := position.after c
      let joined := gap.folded.reverse ++ done
      if isGap c then place.read done (gap.add c) next rest
      else if position.column == 0 && isAnyDocumentMark (c :: rest) then
        .error (place.problem .documentInQuotes .quotedText position)
      else if c = place.quotes.mark then
        if place.quotes = .single && rest.head? = some c then
          place.read (c :: joined) .none (next.after c) (rest.drop 1)
        else .ok (joined, ⟨rest, next⟩)
      else if place.isEscape c then
        match rest.head?.filter isBreak with
        | some d => place.read joined (.lines none []) (next.after d) (rest.drop 1)
        | none =>
            match place.readEscape position rest with
            | .error problem => .error problem
            | .ok (char, count) =>
                place.read (char :: joined) .none ((rest.take count).foldl .after next)
                  (rest.drop count)
      else place.read (c :: joined) .none next rest
termination_by chars => chars.length

end QuotedPlace

/-- Reads a quoted scalar; the cursor is at its opening quote. -/
def readQuoted (quotes : Quotes) (cursor : Cursor) : Except Problem (Token × Cursor) := do
  let begun := cursor.position
  let inside := cursor.next
  let (chars, after) ← QuotedPlace.read ⟨begun, quotes⟩ [] .none inside.position inside.rest
  return (⟨.scalar (String.ofList chars.reverse) .quoted, begun, after.position⟩, after)

end ModeSwitch.Yaml
