import ModeSwitch.Yaml.Source
import ModeSwitch.Yaml.Token

/-! Indented scalars.

Such a scalar consists of the lines that are indented as far as its first line.  Its lines are kept
as they stand, or joined by spaces; an indicator says whether line breaks at its end are kept, cut
to one, or cut altogether.
-/

namespace ModeSwitch.Yaml

/-- What becomes of the line breaks at the end. -/
inductive Chomping where
  | strip
  | clip
  | keep
  deriving DecidableEq, Repr

def Chomping.ofChar? : Char → Option Chomping
  | '+' => some .keep
  | '-' => some .strip
  | _ => none

/-- Reads the indicators behind the mark of an indented scalar, in either order: how its end is
chomped, and how far it is indented. -/
def readIndicators (begun : Position) (cursor : Cursor) :
    Except Problem (Chomping × Option Nat × Cursor) := do
  let chomping (cursor : Cursor) : Option Chomping × Cursor :=
    match cursor.rest.head?.bind Chomping.ofChar? with
    | some chomping => (some chomping, cursor.next)
    | none => (none, cursor)
  let (first, cursor) := chomping cursor
  let (indent, cursor) ← match cursor.rest.head?.filter Char.isDigit with
    | some '0' => .error (cursor.problem .zeroIndent .blockText begun)
    | some digit => .ok (some (digit.toNat - '0'.toNat), cursor.next)
    | none => .ok (none, cursor)
  let (last, cursor) :=
    if first.isNone && indent.isSome then chomping cursor else (none, cursor)
  return ((first.or last).getD .clip, indent, cursor)

/-- What was skipped before a line of an indented scalar. -/
structure Margin where
  /-- The line breaks, latest first. -/
  breaks : List Char
  /-- The greatest column at which text or a line break was found. -/
  greatest : Nat
  /-- The position after the last line break. -/
  stop : Position

/-- Skips line breaks and indentation up to the column `indent`, or all spaces if it is not known
yet. -/
def skipMargin (begun : Position) (indent : Option Nat) (margin : Margin) (position : Position) :
    List Char → Except Problem (Margin × Cursor)
  | [] => .ok ({ margin with greatest := max margin.greatest position.column }, ⟨[], position⟩)
  | c :: rest =>
      let isBefore := indent.all (position.column < ·)
      if isBefore && c = ' ' then skipMargin begun indent margin (position.after c) rest
      else
        let margin := { margin with greatest := max margin.greatest position.column }
        if isBefore && c = '\t' then
          .error ⟨.tabInIndent, position, some (.blockText, begun)⟩
        else if isBreak c then
          let next := position.after c
          skipMargin begun indent { margin with breaks := c :: margin.breaks, stop := next } next rest
        else .ok (margin, ⟨c :: rest, position⟩)

structure BlockLines where
  /-- Their characters, latest first, without the line break after the last of them. -/
  chars : List Char
  /-- The line break after the last line, if there is one. -/
  lastBreak : Option Char
  /-- The further line breaks after it, latest first. -/
  breaks : List Char
  /-- Does the last line begin with a blank? -/
  isIndented : Bool
  /-- The position after what has been read. -/
  stop : Position

namespace BlockLines

/-- The characters before a further line, latest first.  Lines are joined where neither begins with
a blank and they end in a line feed. -/
def joined (lines : BlockLines) (folds nextIsIndented : Bool) : List Char :=
  if folds && lines.lastBreak = some '\n' && !lines.isIndented && !nextIsIndented then
    if lines.breaks = [] then ' ' :: lines.chars else lines.breaks ++ lines.chars
  else lines.breaks ++ lines.lastBreak.toList ++ lines.chars

/-- The characters once all lines have been read, latest first. -/
def chomped (lines : BlockLines) : Chomping → List Char
  | .strip => lines.chars
  | .clip => lines.lastBreak.toList ++ lines.chars
  | .keep => lines.breaks ++ lines.lastBreak.toList ++ lines.chars

end BlockLines

/-- Reads the lines at a column, at most `fuel` of them. -/
def readLines (begun : Position) (folds : Bool) (indent : Nat) :
    (fuel : Nat) → BlockLines → Cursor → Except Problem (BlockLines × Cursor)
  | 0, lines, cursor => .ok (lines, cursor)
  | fuel + 1, lines, cursor =>
      if cursor.position.column ≠ indent then .ok (lines, cursor)
      else
        match cursor.rest with
        | [] => .ok (lines, cursor)
        | c :: _ => do
            let isIndented := isBlank c
            let before := lines.joined folds isIndented
            let (text, atEnd) := cursor.takeWhile fun c => !isBreak c
            let lastBreak := atEnd.rest.head?
            let below := atEnd.next
            let (margin, cursor) ← skipMargin begun (some indent) ⟨[], 0, below.position⟩
              below.position below.rest
            readLines begun folds indent fuel
              ⟨text.reverse ++ before, lastBreak, margin.breaks, isIndented, margin.stop⟩ cursor

/-- Reads an indented scalar; the cursor is at its mark.  `outer` is the column of the collection
around it, if there is one. -/
def readBlock (folds : Bool) (outer : Option Nat) (cursor : Cursor) :
    Except Problem (Token × Cursor) := do
  let begun := cursor.position
  let (chomping, indicated, cursor) ← readIndicators begun cursor.next
  let first ← cursor.endLine .blockText begun
  let indicated := indicated.map (outer.getD 0 + ·)
  let (margin, start) ← skipMargin begun indicated ⟨[], 0, first.position⟩ first.position first.rest
  let indent := indicated.getD (max margin.greatest (max 1 ((outer.map (· + 1)).getD 0)))
  let (lines, after) ← readLines begun folds indent (start.rest.length + 1)
    ⟨[], none, margin.breaks, false, margin.stop⟩ start
  let style := if folds then Style.folded else .literal
  return (⟨.scalar (String.ofList (lines.chomped chomping).reverse) style, begun, lines.stop⟩, after)

end ModeSwitch.Yaml
