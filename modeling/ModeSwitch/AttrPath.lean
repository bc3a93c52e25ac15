/-! Paths of attributes.

A path is kept as it was spelled, since messages repeat the spelling.  Two spellings name the same
place when they agree component by component: repeated and trailing separators and inner dots do
not count, a leading dot of a relative path does, and a step up is kept as it stands.
-/

namespace ModeSwitch

/-- Where a path leads, spelled without accidents. -/
structure Place where
  /-- Does the path begin at the root? -/
  rooted : Bool
  /-- The names along the way; `..` is one of them, and so is a leading `.`. -/
  names : List String
  deriving DecidableEq, Repr

/-- The path of an attribute, as it was spelled. -/
structure AttrPath where
  text : String
  deriving DecidableEq, Repr

namespace AttrPath

/-- The pieces of a spelling between its separators; there is one more piece than separators. -/
def pieces : List Char → List (List Char)
  | [] => [[]]
  | c :: cs =>
      if c = '/' then [] :: pieces cs
      else
        match pieces cs with
        | [] => [[c]]
        | piece :: rest => (c :: piece) :: rest

/-- The pieces that count as names: no empty piece, and a dot only at the head.  The first piece is
empty when the path begins at the root, so only a relative path keeps a dot. -/
def namesOf : List (List Char) → List (List Char)
  | [] => []
  | first :: rest =>
      let inner := rest.filter fun part => part ≠ [] ∧ part ≠ ['.']
      if first = [] then inner else first :: inner

def place (path : AttrPath) : Place :=
  let chars := path.text.toList
  ⟨chars.head? = some '/', (namesOf (pieces chars)).map String.ofList⟩

/-- Do two paths name the same place? -/
def SamePlace (a b : AttrPath) : Prop :=
  a.place = b.place

instance (a b : AttrPath) : Decidable (SamePlace a b) :=
  inferInstanceAs (Decidable (a.place = b.place))

end AttrPath

end ModeSwitch
