/-! How alike two texts are.

Two characters match if they are equal and stand at nearly the same place in their texts; every
character matches at most one.  The similarity is the mean of three shares: of the characters of
each text that match, and of the matches that stand in the same order.
-/

namespace ModeSwitch.Text

/-- The first place among those of `right` at which the character stands that is not taken yet, at
a distance of at most `reach` from `place`. -/
def matchFor? (reach place : Nat) (c : Char) (taken : List Nat) (right : List (Char × Nat)) :
    Option Nat :=
  (right.find? fun (d, n) => d = c && n ≤ place + reach && place ≤ n + reach && !taken.contains n).map
    (·.2)

/-- The matches of the characters of `left` with those of `right`, as pairs of places; the matches
before them are `done`, the last one first. -/
def matchesFrom (reach : Nat) (right : List (Char × Nat)) (done : List (Nat × Nat)) :
    List (Char × Nat) → List (Nat × Nat)
  | [] => done.reverse
  | (c, place) :: rest =>
      match matchFor? reach place c (done.map (·.2)) right with
      | some n => matchesFrom reach right ((place, n) :: done) rest
      | none => matchesFrom reach right done rest

/-- How alike two texts are, from zero to one.  The mean is taken of rounded shares, so that a pair
just at a bound may count as above it. -/
def similarity (left right : String) : Float :=
  let a := left.toList
  let b := right.toList
  if a = [] && b = [] then 1
  else
    let found := matchesFrom (max a.length b.length / 2 - 1) b.zipIdx [] a.zipIdx
    if found = [] then 0
    else
      let inRight := (found.map (·.2)).mergeSort (· ≤ ·)
      let moved := ((found.map (·.1)).zip inRight).filter fun (i, j) => a[i]? ≠ b[j]?
      let matching := found.length.toFloat
      let kept := (found.length - moved.length / 2).toFloat
      (matching / a.length.toFloat + matching / b.length.toFloat + kept / matching) / 3

/-- The similarity that a candidate has to exceed. -/
def leastSimilarity : Float := 0.7

def similarTo (text : String) (candidates : List String) : List String :=
  let close := (candidates.map fun name => (similarity text name, name)).filter
    fun found => leastSimilarity < found.1
  (close.mergeSort fun left right => left.1 ≤ right.1).map (·.2)

end ModeSwitch.Text
