import ModeSwitch.Decimal.Binary
import ModeSwitch.Host.Shell.Number

/-! Numbers with a fraction, as a format writes them.

A number is read as the nearest binary number of double precision, and written with a given number of
digits; of two texts that are equally near, the one with the even last digit is written.
-/

namespace ModeSwitch.Host.Shell

open Decimal

inductive Magnitude where
  | finite (number : Binary)
  | infinite
  /-- That of no number. -/
  | none
  deriving DecidableEq, Repr

structure Fraction where
  isNegative : Bool
  magnitude : Magnitude
  deriving DecidableEq, Repr

namespace Fraction

/-! ## Reading -/

/-- The exponent at the head of a text, behind a mark, and the rest; without digits there is none. -/
def exponent (mark : Char) (text : Octets) : Int × Octets :=
  match text with
  | c :: rest =>
      if c.toLower = mark then
        let (isNegative, digits) := match rest with
          | '-' :: rest => (true, rest)
          | '+' :: rest => (false, rest)
          | rest => (false, rest)
        if digits.head?.any Char.isDigit then
          let (value, rest) := Number.digits 10 0 digits
          (if isNegative then -value else value, rest)
        else (0, text)
      else (0, text)
  | [] => (0, [])

def nearest (base digits : Nat) (power : Int) : Magnitude :=
  let bounded := max (-20000) (min 20000 power)
  let (num, den) :=
    if 0 ≤ bounded then (digits * Nat.pow base bounded.toNat, 1)
    else (digits, Nat.pow base (-bounded).toNat)
  match Binary.nearest? num den with
  | some number => .finite number
  | none => .infinite

/-- The size at the head of a text without a sign, and the rest. -/
def magnitude? (text : Octets) : Option (Magnitude × Octets) :=
  let word (count : Nat) : String := String.ofList ((text.take count).map Char.toLower)
  if word 8 = "infinity" then some (.infinite, text.drop 8)
  else if word 3 = "inf" then some (.infinite, text.drop 3)
  else if word 3 = "nan" then some (.none, text.drop 3)
  else
    let (base, mark, power, numeral) := match text with
      | '0' :: x :: c :: rest =>
          if (x = 'x' || x = 'X') && (Number.digit? 16 c).isSome then (16, 'p', 4, c :: rest)
          else (10, 'e', 1, text)
      | _ => (10, 'e', 1, text)
    let isDigit (c : Char) : Bool := (Number.digit? base c).isSome
    let whole := numeral.takeWhile isDigit
    let rest := numeral.drop whole.length
    let (decimals, rest) := match rest with
      | '.' :: rest => (rest.takeWhile isDigit, rest.dropWhile isDigit)
      | rest => ([], rest)
    if whole = [] && decimals = [] then none
    else
      let digits := (Number.digits base 0 (whole ++ decimals)).1
      let (shift, rest) := exponent mark rest
      let scale : Int := shift - power * decimals.length
      some (nearest (if base = 16 then 2 else 10) digits scale, rest)

/-- Reads the number at the head of a text, if there is one, and the rest. -/
def head? (text : Octets) : Option (Fraction × Octets) :=
  let trimmed := text.dropWhile Number.isBlank
  let (isNegative, unsigned) := match trimmed with
    | '-' :: rest => (true, rest)
    | '+' :: rest => (false, rest)
    | rest => (false, rest)
  (magnitude? unsigned).map fun (magnitude, rest) => (⟨isNegative, magnitude⟩, rest)

/-! ## Writing -/

def scaled (number : Binary) (power : Int) : Nat :=
  let num := number.multiple * Nat.pow 2 number.power.toNat * Nat.pow 10 power.toNat
  let den := Nat.pow 2 (-number.power).toNat * Nat.pow 10 (-power).toNat
  Binary.roundQuotient num den

def withPoint (places : Nat) (keepsPoint : Bool) (digits : Octets) : Octets :=
  let padded := List.replicate (places + 1 - digits.length) '0' ++ digits
  let whole := padded.take (padded.length - places)
  let decimals := padded.drop (padded.length - places)
  if places = 0 && !keepsPoint then whole else whole ++ '.' :: decimals

def digitsOf (n : Nat) : Octets :=
  (toString n).toList

def fixed (places : Nat) (keepsPoint : Bool) (number : Binary) : Octets :=
  withPoint places keepsPoint (digitsOf (scaled number places))

/-- A number with one digit before the point: the digits, and the power of ten. -/
def scientificDigits (places : Nat) (number : Binary) : Octets × Int :=
  if number.multiple = 0 then (List.replicate (places + 1) '0', 0)
  else
    let bits : Int := number.multiple.log2 + number.power
    let guess : Int := bits * 30103 / 100000
    let candidates : List Int := [guess - 1, guess, guess + 1]
    let fits (power : Int) : Option (Octets × Int) :=
      let digits := digitsOf (scaled number (places - power))
      if digits.length = places + 1 then some (digits, power)
      else none
    (candidates.findSome? fits).getD
      ('1' :: List.replicate places '0', guess + 1)

def powerText (mark : Char) (leastDigits : Nat) (power : Int) : Octets :=
  let digits := digitsOf power.natAbs
  mark :: (if power < 0 then '-' else '+')
    :: List.replicate (leastDigits - digits.length) '0' ++ digits

def scientific (places : Nat) (keepsPoint : Bool) (number : Binary) : Octets :=
  let (digits, power) := scientificDigits places number
  withPoint places keepsPoint digits ++ powerText 'e' 2 power

/-- A text of digits without the zeros at its end, and without a point there. -/
def withoutZeros (text : Octets) : Octets :=
  if text.contains '.' then
    let kept := (text.reverse.dropWhile (· = '0')).reverse
    if kept.getLast? = some '.' then kept.dropLast else kept
  else text

def general (digits : Nat) (keepsZeros : Bool) (number : Binary) : Octets :=
  let count := max digits 1
  let (_, power) := scientificDigits (count - 1) number
  let trim (text : Octets) : Octets := if keepsZeros then text else withoutZeros text
  if power < -4 || (count : Int) ≤ power then
    let (digits, power) := scientificDigits (count - 1) number
    trim (withPoint (count - 1) keepsZeros digits) ++ powerText 'e' 2 power
  else trim (fixed (count - 1 - power).toNat keepsZeros number)

def hexadecimal (number : Binary) : Octets :=
  if number.multiple = 0 then "0x0p+0".toList
  else
    let bits := number.multiple.log2
    let mantissa := number.multiple * Nat.pow 2 (52 - bits)
    let digits := Nat.toDigits 16 (mantissa - Nat.pow 2 52)
    let decimals := List.replicate (13 - digits.length) '0' ++ digits
    let kept := (decimals.reverse.dropWhile (· = '0')).reverse
    "0x1".toList ++ (if kept = [] then [] else '.' :: kept) ++ powerText 'p' 1 (number.power + bits)

end Fraction

end ModeSwitch.Host.Shell
