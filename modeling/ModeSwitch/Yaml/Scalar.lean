import ModeSwitch.Decimal.Shortest
import ModeSwitch.Text.Quoted

/-! The meaning of scalars.

A plain scalar means nothing, a truth value, a number or a text, by the way it is spelled.  Numbers
with leading zeros are texts.
-/

namespace ModeSwitch.Yaml

/-- A number that is not whole by its spelling. -/
inductive Fraction where
  | finite (isNegative : Bool) (number : Decimal.Binary)
  | infinite (isNegative : Bool)
  | undefined
  deriving DecidableEq, Repr

inductive Meaning where
  | null
  | truth (value : Bool)
  /-- A whole number; zero may be written with a minus sign. -/
  | whole (isNegative : Bool) (magnitude : Nat)
  | fraction (value : Fraction)
  | text (value : String)
  deriving DecidableEq, Repr

/-! ## Spellings -/

def isNull (text : String) : Bool :=
  text == "null" || text == "Null" || text == "NULL" || text == "~"

def truth? (text : String) : Option Bool :=
  if text == "true" || text == "True" || text == "TRUE" then some true
  else if text == "false" || text == "False" || text == "FALSE" then some false
  else none

def digitValue? (base : Nat) (c : Char) : Option Nat :=
  let value? :=
    if c.isDigit then some (c.toNat - '0'.toNat)
    else if 'a' ≤ c ∧ c ≤ 'f' then some (c.toNat - 'a'.toNat + 10)
    else if 'A' ≤ c ∧ c ≤ 'F' then some (c.toNat - 'A'.toNat + 10)
    else none
  value?.filter (· < base)

/-- The number that some digits write in a base; there must be at least one. -/
def numeral? (base : Nat) (digits : List Char) : Option Nat :=
  if digits = [] then none
  else digits.foldlM (fun n c => (digitValue? base c).map (n * base + ·)) 0

/-- A text without the sign at its start, and whether that sign was a minus. -/
def splitSign : List Char → Bool × List Char
  | '-' :: rest => (true, rest)
  | '+' :: rest => (false, rest)
  | chars => (false, chars)

def hasLeadingZero : List Char → Bool
  | '0' :: d :: rest => (d :: rest).all Char.isDigit
  | _ => false

/-- The number that characters without a sign write, in base ten or in one that they name. -/
def magnitude? : List Char → Option Nat
  | '0' :: 'x' :: digits => numeral? 16 digits
  | '0' :: 'o' :: digits => numeral? 8 digits
  | '0' :: 'b' :: digits => numeral? 2 digits
  | digits => if hasLeadingZero digits then none else numeral? 10 digits

/-- The whole number that a text spells, if it has at most 128 bits. -/
def whole? (text : String) : Option (Bool × Nat) :=
  let (isNegative, digits) := splitSign text.toList
  let limit := if isNegative then Nat.pow 2 127 + 1 else Nat.pow 2 128
  ((magnitude? digits).filter (· < limit)).map (isNegative, ·)

/-- The whole number of at most 64 bits that a text spells without a minus sign. -/
def natural? (text : String) : Option Nat :=
  match whole? text with
  | some (false, n) => if n < Nat.pow 2 64 then some n else none
  | _ => none

/-! ## Fractions -/

/-- The quotient nearest to digits times a power of ten.  Beyond the bounds every number is too
large, or rounds to zero. -/
def nearestDecimal? (digits : Nat) (power : Int) : Option Decimal.Binary :=
  let magnitude := ((Nat.toDigits 10 digits).length : Int) + power
  if digits = 0 || magnitude < -330 then some .zero
  else if 310 < magnitude then none
  else if 0 ≤ power then Decimal.Binary.nearest? (digits * Nat.pow 10 power.toNat) 1
  else Decimal.Binary.nearest? digits (Nat.pow 10 (-power).toNat)

def exponent? : List Char → Option Int
  | [] => some 0
  | c :: rest =>
      if c = 'e' ∨ c = 'E' then
        let (isNegative, digits) := splitSign rest
        (numeral? 10 digits).map fun n => if isNegative then -(n : Int) else n
      else none

/-- The finite number that characters without a sign write in decimal notation. -/
def decimal? (chars : List Char) : Option Decimal.Binary :=
  let whole := chars.takeWhile Char.isDigit
  let rest := chars.dropWhile Char.isDigit
  let (tenths, rest) : List Char × List Char := match rest with
    | '.' :: rest => (rest.takeWhile Char.isDigit, rest.dropWhile Char.isDigit)
    | rest => ([], rest)
  match numeral? 10 (whole ++ tenths), exponent? rest with
  | some digits, some exponent => nearestDecimal? digits (exponent - tenths.length)
  | _, _ => none

/-- The number that a text spells with a point or an exponent, or by a name. -/
def fraction? (text : String) : Option Fraction :=
  let unsigned := match text.toList with
    | '+' :: rest => rest
    | chars => chars
  let name := String.ofList unsigned
  if name == ".inf" || name == ".Inf" || name == ".INF" then some (.infinite false)
  else if text == "-.inf" || text == "-.Inf" || text == "-.INF" then some (.infinite true)
  else if text == ".nan" || text == ".NaN" || text == ".NAN" then some .undefined
  else
    let (isNegative, digits) := splitSign text.toList
    (decimal? digits).map (.finite isNegative)

/-! ## Plain scalars -/

/-- The meaning of a plain scalar. -/
def Meaning.ofPlain (text : String) : Meaning :=
  if text = "" || isNull text then .null
  else
    match truth? text, whole? text with
    | some value, _ => .truth value
    | none, some (isNegative, magnitude) => .whole isNegative magnitude
    | none, none =>
        if hasLeadingZero (splitSign text.toList).2 then .text text
        else
          match fraction? text with
          | some value => .fraction value
          | none => .text text

end ModeSwitch.Yaml
