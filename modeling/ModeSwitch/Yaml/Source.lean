import ModeSwitch.Yaml.Problem

/-! The characters of a text.

Before a text is read, its characters are checked, and every line ending of one or two characters
becomes a line feed.  Then it is read through a cursor: the characters still to come, and the
position of the first of them.
-/

namespace ModeSwitch.Yaml

/-- May a text hold the character?  Controls may not occur, apart from tabs and line endings. -/
def isAllowed (c : Char) : Bool :=
  let n := c.toNat
  n == 0x09 || n == 0x0A || n == 0x0D || n == 0x85
    || (0x20 ≤ n && n ≤ 0x7E)
    || (0xA0 ≤ n && n ≤ 0xFFFD)
    || 0x10000 ≤ n

/-- The number of bytes before the first character that may not occur, if there is one. -/
def firstForbidden? (bytes : Nat) : List Char → Option Nat
  | [] => none
  | c :: rest => if isAllowed c then firstForbidden? (bytes + c.utf8Size) rest else some bytes

/-- The characters with a line feed for every line ending of one or two characters. -/
def unifyBreaks : List Char → List Char
  | [] => []
  | '\r' :: '\n' :: rest => '\n' :: unifyBreaks rest
  | c :: rest => (if c = '\r' ∨ c = '\u0085' then '\n' else c) :: unifyBreaks rest

/-- The mark that may stand at the start of a line, and means nothing there. -/
def byteOrderMark : Char := '\ufeff'

def sourceOf (text : String) : Except Problem (List Char) :=
  match firstForbidden? 0 text.toList with
  | some bytes => .error ⟨.controlCharacter bytes, .start, none⟩
  | none => .ok (unifyBreaks text.toList)

/-! ## Kinds of characters -/

def isBlank (c : Char) : Bool :=
  c == ' ' || c == '\t'

def isGap (c : Char) : Bool :=
  isBlank c || isBreak c

def isNameChar (c : Char) : Bool :=
  c.isAlphanum || c == '_' || c == '-'

def hexValue? (c : Char) : Option Nat :=
  if c.isDigit then some (c.toNat - '0'.toNat)
  else if 'a' ≤ c ∧ c ≤ 'f' then some (c.toNat - 'a'.toNat + 10)
  else if 'A' ≤ c ∧ c ≤ 'F' then some (c.toNat - 'A'.toNat + 10)
  else none

/-- Does a line break, the end of the text, or neither come next? -/
def endsLine : List Char → Bool
  | [] => true
  | c :: _ => isBreak c

/-- Does a blank, a line break or the end of the text come next? -/
def endsWord : List Char → Bool
  | [] => true
  | c :: _ => isGap c

/-- Does one of two kinds of document marks come next: three equal characters `c`, and then the
end of a word? -/
def isDocumentMark (c : Char) : List Char → Bool
  | a :: b :: d :: rest => a == c && b == c && d == c && endsWord rest
  | _ => false

def isAnyDocumentMark (chars : List Char) : Bool :=
  isDocumentMark '-' chars || isDocumentMark '.' chars

/-! ## The cursor -/

/-- The characters still to come, and the position of the first of them. -/
structure Cursor where
  rest : List Char
  position : Position
  deriving DecidableEq, Repr

namespace Cursor

def ofChars (chars : List Char) : Cursor := ⟨chars, .start⟩

/-- The cursor after one more character; at the end it stays. -/
def next (cursor : Cursor) : Cursor :=
  match cursor.rest with
  | [] => cursor
  | c :: rest => ⟨rest, cursor.position.after c⟩

def skip (cursor : Cursor) : Nat → Cursor
  | 0 => cursor
  | n + 1 => cursor.next.skip n

/-- The longest run of characters that satisfies `p`, and the cursor after it. -/
def takeWhile (cursor : Cursor) (p : Char → Bool) : List Char × Cursor :=
  let run := cursor.rest.takeWhile p
  (run, ⟨cursor.rest.dropWhile p, run.foldl .after cursor.position⟩)

def dropWhile (cursor : Cursor) (p : Char → Bool) : Cursor :=
  (cursor.takeWhile p).2

/-- The cursor after blanks and a comment, at the end of the line if only these were left. -/
def skipComment (cursor : Cursor) : Cursor :=
  let cursor := cursor.dropWhile isBlank
  match cursor.rest with
  | '#' :: _ => cursor.dropWhile fun c => !isBreak c
  | _ => cursor

def problem (cursor : Cursor) (fault : Fault) (activity : Activity) (begun : Position) : Problem :=
  ⟨fault, cursor.position, some (activity, begun)⟩

/-- Skips blanks, a comment and the line break after them; nothing else may be on the line. -/
def endLine (cursor : Cursor) (activity : Activity) (begun : Position) :
    Except Problem Cursor :=
  let cursor := cursor.skipComment
  if endsLine cursor.rest then .ok cursor.next
  else .error (cursor.problem .lineNotEnded activity begun)

end Cursor

end ModeSwitch.Yaml
