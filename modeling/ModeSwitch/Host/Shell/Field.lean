import ModeSwitch.Host.Shell.Form

/-! Fields.

What a word comes to is a row of stretches.  Some are whole; others, such as the value of a variable
outside quotes, are split into fields at separators.  Blanks between fields count as one separator, and
those in front of the first field count for nothing.
-/

namespace ModeSwitch.Host.Shell

/-- A part of what a word comes to. -/
inductive Mark where
  /-- A byte; if it is fixed, it has no special sense in a form. -/
  | byte (c : Char) (isFixed : Bool)
  /-- A quote: a field with one is there even if it is empty. -/
  | quote
  /-- The border between two arguments. -/
  | border
  deriving DecidableEq, Repr

inductive Splitting where
  | whole
  /-- At borders only. -/
  | atBorders
  | atSeparators
  deriving DecidableEq, Repr

/-- A part of what a word comes to, with how it is split. -/
structure Stretch where
  splitting : Splitting
  marks : List Mark
  deriving DecidableEq, Repr

namespace Mark

def char? : Mark → Option Char
  | .byte c _ => some c
  | .quote | .border => none

def text (marks : List Mark) : Octets :=
  marks.filterMap char?

def form (marks : List Mark) : Form :=
  marks.filterMap fun
    | .byte c isFixed => some ⟨c, isFixed⟩
    | .quote | .border => none

def ofText (isFixed : Bool) (text : Octets) : List Mark :=
  text.map (.byte · isFixed)

end Mark

def Stretch.text (stretches : List Stretch) : Octets :=
  Mark.text (stretches.flatMap (·.marks))

def Stretch.form (stretches : List Stretch) : Form :=
  Mark.form (stretches.flatMap (·.marks))

def isBlankSeparator (c : Char) : Bool :=
  c = ' ' || c = '\t' || c = '\n'

/-- Where splitting into fields has come to. -/
structure Splitter where
  /-- The fields that are complete, the last one first. -/
  done : List (List Mark)
  /-- The marks of the present field, the last one first. -/
  current : List Mark
  /-- How many fields there may still be, if that is limited. -/
  left : Option Nat
  /-- The length to which the last field is cut. -/
  cut : Option Nat
  /-- Was the last stretch that may be split one with borders? -/
  wasBordered : Bool
  /-- Is the last mark a blank separator, so that the separators behind it belong to it? -/
  isBlank : Bool
  deriving DecidableEq, Repr

namespace Splitter

def start (limit : Option Nat) : Splitter :=
  ⟨[], [], limit, none, false, false⟩

def add (splitter : Splitter) (marks : List Mark) : Splitter :=
  { splitter with current := marks.reverse ++ splitter.current }

def separates (splitting : Splitting) (separators : Octets) : Mark → Bool
  | .border => true
  | .quote => false
  | .byte c _ => splitting = .atSeparators && separators.contains c

def isBlankMark : Mark → Bool
  | .border => true
  | .quote => false
  | .byte c _ => isBlankSeparator c

/-- Takes a mark in the last of a limited number of fields, in which separators stay, but for those at
the end. -/
def takeLast (splitter : Splitter) (mark : Mark) (isSeparator isBlank : Bool) : Splitter :=
  let cut :=
    if isBlank then some (splitter.cut.getD splitter.current.length)
    else if isSeparator && splitter.isBlank then splitter.cut
    else none
  { splitter.add [mark] with cut, isBlank := isBlank && splitter.isBlank }

def takeSeparator (splitter : Splitter) (mark : Mark) (isBlank : Bool) : Splitter :=
  if splitter.current = [] && isBlank then splitter
  else if splitter.left = some 1 then
    { splitter.add [mark] with left := some 0, cut := some splitter.current.length, isBlank }
  else
    { splitter with
      done := splitter.current.reverse :: splitter.done
      current := []
      left := splitter.left.map (· - 1)
      isBlank }

/-- Takes a mark of a stretch.  Blanks behind a blank separator belong to it, and so does the first
separator that is none.  Borders, and blanks behind a stretch with borders, stand each for itself. -/
def step (splitting : Splitting) (isAfterBorders : Bool) (separators : Octets) (splitter : Splitter)
    (mark : Mark) : Splitter :=
  let isSeparator := separates splitting separators mark
  let isBlank := isSeparator && isBlankMark mark
  if splitter.left = some 0 then splitter.takeLast mark isSeparator isBlank
  else if !isSeparator then { splitter.add [mark] with isBlank := false }
  else if splitter.isBlank then { splitter with isBlank }
  else splitter.takeSeparator mark (isBlank && !isAfterBorders && splitting = .atSeparators)

def take (separators : Octets) (splitter : Splitter) (stretch : Stretch) : Splitter :=
  match stretch.splitting with
  | .whole => splitter.add stretch.marks
  | splitting =>
      let next :=
        stretch.marks.foldl (step splitting splitter.wasBordered separators)
          { splitter with isBlank := false }
      { next with wasBordered := splitting = .atBorders }

def fields (splitter : Splitter) : List (List Mark) :=
  let last := splitter.current.reverse.take (splitter.cut.getD splitter.current.length)
  let rest := if last = [] && !splitter.wasBordered then [] else [last]
  splitter.done.reverse ++ rest

end Splitter

/-- The fields that stretches are split into, at most a number of them. -/
def Stretch.fields (separators : Octets) (limit : Option Nat) (stretches : List Stretch) :
    List (List Mark) :=
  (stretches.foldl (Splitter.take separators) (.start limit)).fields

end ModeSwitch.Host.Shell
