/-! Patterns of values.

A pattern stands for the texts it matches: a character for itself, a class for one of several, a
group or a character with a mark behind it for its repetitions.  No text is ever matched here; what
counts is whether a text is a pattern at all.  A pattern is read as characters or, where a flag says
so, as bytes; neither the kinds of characters nor the cases of letters are known beyond those of seven
bits, so what needs more is no pattern.
-/

namespace ModeSwitch

structure PatternChar where
  char : Char
  /-- Is it written by the two digits of a byte? -/
  isByte : Bool
  deriving DecidableEq, Repr

inductive PatternFlag where
  | caseless
  | linewise
  | dotsTakeLines
  | reluctant
  | returns
  | characters
  | spaced
  deriving DecidableEq, Repr

abbrev PatternFlags := List (PatternFlag × Bool)

inductive SetOperator where
  | intersection
  | difference
  | symmetricDifference
  deriving DecidableEq, Repr

mutual

/-- A member of a class. -/
inductive ClassItem where
  | literal (char : PatternChar)
  | range (first last : PatternChar)
  /-- The characters of seven bits of a kind with a name. -/
  | named (isNegated : Bool)
  /-- The characters of a kind with a letter: digits, blanks, characters of words. -/
  | kind (isNegated : Bool)
  /-- The characters with a property. -/
  | property
  | nested (isNegated : Bool) (set : ClassSet)
  | union (items : List ClassItem)

inductive ClassSet where
  | item (item : ClassItem)
  | combined (operator : SetOperator) (left right : ClassSet)

end

inductive Pattern where
  | empty
  /-- Flags for the rest of a group. -/
  | switch (flags : PatternFlags)
  | literal (char : PatternChar)
  | anyChar
  /-- An end of a line or of the text. -/
  | edge
  /-- A place where a word begins or ends, or one where it does not. -/
  | wordEdge
  | kind (isNegated : Bool)
  | property
  | oneOf (isNegated : Bool) (set : ClassSet)
  | repeated (pattern : Pattern)
  | group (flags : PatternFlags) (pattern : Pattern)
  | choice (branches : List Pattern)
  | row (items : List Pattern)

/-! ## Depth -/

mutual

def ClassItem.depth : ClassItem → Nat
  | .literal _ | .range .. | .named _ | .kind _ | .property => 0
  | .nested _ set => set.depth + 1
  | .union [] => 0
  | .union (item :: items) => ClassItem.depthOfAll (item :: items) + 1

def ClassItem.depthOfAll : List ClassItem → Nat
  | [] => 0
  | item :: rest => max item.depth (ClassItem.depthOfAll rest)

def ClassSet.depth : ClassSet → Nat
  | .item item => item.depth
  | .combined _ left right => max left.depth right.depth + 1

end

mutual

def Pattern.depth : Pattern → Nat
  | .empty | .switch _ | .literal _ | .anyChar | .edge | .wordEdge | .kind _ | .property => 0
  | .oneOf _ set => set.depth + 1
  | .repeated pattern => pattern.depth + 1
  | .group _ pattern => pattern.depth + 1
  | .choice branches => Pattern.depthOfAll branches + 1
  | .row items => Pattern.depthOfAll items + 1

def Pattern.depthOfAll : List Pattern → Nat
  | [] => 0
  | pattern :: rest => max pattern.depth (Pattern.depthOfAll rest)

end

/-! ## Sense -/

structure PatternMode where
  /-- Does a letter stand for both of its cases? -/
  isCaseless : Bool
  /-- Does the pattern stand for characters, or for bytes? -/
  isOfChars : Bool
  deriving DecidableEq, Repr

namespace PatternMode

def start : PatternMode := ⟨false, true⟩

def setFlag (mode : PatternMode) (flag : PatternFlag × Bool) : PatternMode :=
  match flag with
  | (.caseless, isSet) => { mode with isCaseless := isSet }
  | (.characters, isSet) => { mode with isOfChars := isSet }
  | (.linewise, _) | (.dotsTakeLines, _) | (.reluctant, _) | (.returns, _) | (.spaced, _) => mode

def set (mode : PatternMode) (flags : PatternFlags) : PatternMode :=
  flags.foldl setFlag mode

/-- May a character stand in a class?  The cases of letters are not known. -/
def allowsInClass (mode : PatternMode) (char : PatternChar) : Bool :=
  if mode.isOfChars then !mode.isCaseless else char.char.toNat < 0x80

/-- May a character stand by itself?  A byte that is no character may not, nor a character whose
cases would have to be known. -/
def allows (mode : PatternMode) (char : PatternChar) : Bool :=
  if mode.isOfChars then !mode.isCaseless else !char.isByte || char.char.toNat < 0x80

end PatternMode

mutual

/-- Has a member of a class a sense in the mode?  Bytes beyond those of seven bits never have one, so
no set of bytes has a complement. -/
def ClassItem.hasSense (mode : PatternMode) : ClassItem → Bool
  | .literal char => mode.allowsInClass char
  | .range first last => mode.allowsInClass first && mode.allowsInClass last
  | .named isNegated => if mode.isOfChars then !mode.isCaseless else !isNegated
  | .kind isNegated => !mode.isOfChars && !isNegated
  | .property => false
  | .nested isNegated set => (mode.isOfChars || !isNegated) && set.hasSense mode
  | .union items => ClassItem.haveSense mode items

/-- Have all of some members of a class a sense? -/
def ClassItem.haveSense (mode : PatternMode) : List ClassItem → Bool
  | [] => true
  | item :: rest => item.hasSense mode && ClassItem.haveSense mode rest

def ClassSet.hasSense (mode : PatternMode) : ClassSet → Bool
  | .item item => item.hasSense mode
  | .combined _ left right => left.hasSense mode && right.hasSense mode

end

mutual

/-- The mode behind a pattern, if the pattern has a sense.  Flags hold up to the end of the group. -/
def Pattern.modeBehind? (mode : PatternMode) : Pattern → Option PatternMode
  | .empty | .edge => some mode
  | .switch flags => some (mode.set flags)
  | .literal char => if mode.allows char then some mode else none
  | .anyChar => if mode.isOfChars then some mode else none
  | .wordEdge => if mode.isOfChars then none else some mode
  | .kind isNegated => if !mode.isOfChars && !isNegated then some mode else none
  | .property => none
  | .oneOf isNegated set =>
      if (mode.isOfChars || !isNegated) && set.hasSense mode then some mode else none
  | .repeated pattern => pattern.modeBehind? mode
  | .group flags pattern => (pattern.modeBehind? (mode.set flags)).map fun _ => mode
  | .choice branches => Pattern.modeBehindAll? mode branches
  | .row items => Pattern.modeBehindAll? mode items

/-- The mode behind patterns one after another, if all have a sense. -/
def Pattern.modeBehindAll? (mode : PatternMode) : List Pattern → Option PatternMode
  | [] => some mode
  | pattern :: rest => (pattern.modeBehind? mode).bind (Pattern.modeBehindAll? · rest)

end

def Pattern.maxDepth : Nat := 250

def Pattern.isUsable (pattern : Pattern) : Bool :=
  pattern.depth ≤ Pattern.maxDepth && (pattern.modeBehind? .start).isSome

end ModeSwitch
