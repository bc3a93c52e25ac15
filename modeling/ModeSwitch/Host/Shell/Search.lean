import ModeSwitch.Host.Shell.Form

/-! Search patterns.

A search pattern stands for the texts it matches: bytes and sets of them, ends of lines and of words,
groups, repetitions and choices.  A text may be matched in several ways; the ways are listed with the
greedy ones first, and of those that begin at the same place the longest counts.
-/

namespace ModeSwitch.Host.Shell

/-- A set of bytes: those in some ranges, or all others. -/
structure ByteSet where
  isNegated : Bool
  ranges : List (Char × Char)
  deriving DecidableEq, Repr

namespace ByteSet

def contains (set : ByteSet) (c : Char) : Bool :=
  (set.ranges.any fun (first, last) => first ≤ c && c ≤ last) ≠ set.isNegated

def single (c : Char) : ByteSet := ⟨false, [(c, c)]⟩

def all : ByteSet := ⟨true, []⟩

def rangesOf (test : Char → Bool) : List (Char × Char) :=
  (((List.range 256).map Char.ofNat).filter test).map fun c => (c, c)

def word : ByteSet := ⟨false, rangesOf fun c => c.isAlphanum || c = '_'⟩

def blank : ByteSet := ⟨false, rangesOf fun c => c = ' ' || (0x09 ≤ c.toNat && c.toNat ≤ 0x0D)⟩

def inverse (set : ByteSet) : ByteSet := { set with isNegated := !set.isNegated }

end ByteSet

inductive Search where
  | empty
  | byte (set : ByteSet)
  | lineStart
  | lineEnd
  | textStart
  | textEnd
  | wordStart
  | wordEnd
  /-- A place where a word begins or ends, or one where it does not. -/
  | wordEdge (isEdge : Bool)
  | group (number : Nat) (inner : Search)
  /-- The text of a group again. -/
  | again (number : Nat)
  | row (first second : Search)
  | choice (first second : Search)
  | repeated (inner : Search) (least : Nat) (most : Option Nat)
  deriving DecidableEq, Repr

namespace Search

/-- Where the search in a text has come to. -/
structure Spot where
  /-- What stands before the spot, the last byte first. -/
  before : Octets
  rest : Octets
  /-- The texts of the groups so far, the last one first. -/
  groups : List (Nat × Octets)
  deriving DecidableEq, Repr

namespace Spot

def start (text : Octets) : Spot := ⟨[], text, []⟩

def next? (spot : Spot) : Option (Char × Spot) :=
  match spot.rest with
  | [] => none
  | c :: rest => some (c, { spot with before := c :: spot.before, rest })

def isBehindWord (spot : Spot) : Bool := spot.before.head?.any ByteSet.word.contains

def isBeforeWord (spot : Spot) : Bool := spot.rest.head?.any ByteSet.word.contains

def textTo (first last : Spot) : Octets :=
  first.rest.take (first.rest.length - last.rest.length)

def behind? (spot : Spot) (isCaseless : Bool) (text : Octets) : Option Spot :=
  let found := spot.rest.take text.length
  let key (text : Octets) : Octets := if isCaseless then text.map Char.toLower else text
  if key found = key text then
    some { spot with before := found.reverse ++ spot.before, rest := spot.rest.drop text.length }
  else none

end Spot

structure Mode where
  /-- Do letters stand for both of their cases? -/
  isCaseless : Bool
  /-- Do ends of lines within a text count as such? -/
  isLinewise : Bool
  deriving DecidableEq, Repr

/-- The spots without those that have come up before. -/
def distinct (spots : List Spot) : List Spot :=
  (spots.foldl (fun found spot => if found.contains spot then found else spot :: found) []).reverse

def longestFirst (spots : List Spot) : List Spot :=
  spots.mergeSort fun a b => a.rest.length ≤ b.rest.length

/-- The spots behind repetitions, at most `fuel` of them.  Beyond the least number a repetition must
not be empty. -/
def repetitions (step : Spot → List Spot) : (fuel least : Nat) → (most : Option Nat) → Spot → List Spot
  | 0, _, _, spot => [spot]
  | fuel + 1, least, most, spot =>
      if most = some 0 then [spot]
      else
        let further := (step spot).filter fun next =>
          0 < least || next.rest.length < spot.rest.length
        let behind :=
          further.flatMap (repetitions step fuel (least - 1) (most.map (· - 1)))
        behind ++ if least = 0 then [spot] else []

def ends (mode : Mode) : Search → Spot → List Spot
  | .empty, spot => [spot]
  | .byte set, spot =>
      match spot.next? with
      | some (c, next) =>
          let inEitherCase := set.contains c.toLower || set.contains c.toUpper
          if set.contains c || (mode.isCaseless && inEitherCase) then [next] else []
      | none => []
  | .lineStart, spot =>
      if spot.before.isEmpty || (mode.isLinewise && spot.before.head? = some '\n') then [spot] else []
  | .lineEnd, spot =>
      if spot.rest.isEmpty || (mode.isLinewise && spot.rest.head? = some '\n') then [spot] else []
  | .textStart, spot => if spot.before.isEmpty then [spot] else []
  | .textEnd, spot => if spot.rest.isEmpty then [spot] else []
  | .wordStart, spot => if !spot.isBehindWord && spot.isBeforeWord then [spot] else []
  | .wordEnd, spot => if spot.isBehindWord && !spot.isBeforeWord then [spot] else []
  | .wordEdge isEdge, spot =>
      if (spot.isBehindWord ≠ spot.isBeforeWord) = isEdge then [spot] else []
  | .group number inner, spot =>
      (ends mode inner spot).map fun last =>
        let others := last.groups.filter (·.1 ≠ number)
        { last with groups := (number, spot.textTo last) :: others }
  | .again number, spot =>
      match spot.groups.lookup number with
      | some text => (spot.behind? mode.isCaseless text).toList
      | none => []
  | .row first second, spot => distinct ((ends mode first spot).flatMap (ends mode second))
  | .choice first second, spot =>
      longestFirst (distinct (ends mode first spot ++ ends mode second spot))
  | .repeated inner least most, spot =>
      distinct (repetitions (ends mode inner) (spot.rest.length + least + 1) least most spot)

def longest? (spots : List Spot) : Option Spot :=
  spots.foldl (fun found spot =>
    match found with
    | some other => if spot.rest.length < other.rest.length then some spot else some other
    | none => some spot) none

/-- The first text behind a spot that the pattern matches and that has a property, by the spots
before and behind it; at most `fuel` bytes are left out. -/
def findWith (mode : Mode) (search : Search) (isWanted : Spot → Spot → Bool) :
    (fuel : Nat) → Spot → Option (Spot × Spot)
  | 0, _ => none
  | fuel + 1, spot =>
      let spot := { spot with groups := [] }
      match longest? ((ends mode search spot).filter (isWanted spot)) with
      | some last => some (spot, last)
      | none =>
          match spot.next? with
          | some (_, next) => findWith mode search isWanted fuel next
          | none => none

def ofPlain : Octets → Search
  | [] => .empty
  | c :: rest => .row (.byte (.single c)) (ofPlain rest)

def groupCount : Search → Nat
  | .group _ inner => groupCount inner + 1
  | .row first second | .choice first second => groupCount first + groupCount second
  | .repeated inner _ _ => groupCount inner
  | .empty | .byte _ | .lineStart | .lineEnd | .textStart | .textEnd | .wordStart | .wordEnd
  | .wordEdge _ | .again _ => 0

end Search

end ModeSwitch.Host.Shell
