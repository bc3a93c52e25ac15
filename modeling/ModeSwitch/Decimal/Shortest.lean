import ModeSwitch.Decimal.Binary

/-! The shortest decimal form of a binary number.

Every binary number stands for an interval of real numbers, those that round to it.  Its decimal
form is a multiple of the greatest power of ten that has a multiple in the interval; of two such
multiples it is the nearer one, and the greater one if they are equally near.
-/

namespace ModeSwitch.Decimal

/-- The number `multiple · 10 ^ power`. -/
structure Numeral where
  multiple : Nat
  power : Int
  deriving DecidableEq, Repr

/-- The real numbers that round to a binary number, in units of a fourth of its power of two. -/
structure Interval where
  low : Nat
  value : Nat
  high : Nat
  /-- Do the ends belong to the interval? -/
  isClosed : Bool
  /-- The power of two of a unit. -/
  power : Int

/-- The interval of a binary number.  Below a power of two the numbers are twice as dense. -/
def Binary.interval (number : Binary) : Interval :=
  let value := 4 * number.multiple
  let isLeast := number.multiple = Nat.pow 2 (bits - 1) && leastPower < number.power
  ⟨if isLeast then value - 1 else value - 2, value, value + 2, number.multiple % 2 = 0,
    number.power - 2⟩

namespace Interval

/-- Units and a power of ten brought to a common measure: the factor of each. -/
def measure (interval : Interval) (power : Int) : Nat × Nat :=
  let (unit, grid) :=
    if 0 ≤ power then (1, Nat.pow 10 power.toNat) else (Nat.pow 10 (-power).toNat, 1)
  if 0 ≤ interval.power then (unit * Nat.pow 2 interval.power.toNat, grid)
  else (unit, grid * Nat.pow 2 (-interval.power).toNat)

/-- The multiple of a power of ten in the interval, if there is one: the nearest to the value, and
of two the greater one. -/
def multiple? (interval : Interval) (power : Int) : Option Nat :=
  let (unit, grid) := interval.measure power
  let value := interval.value * unit
  let holds (multiple : Nat) : Bool :=
    let point := multiple * grid
    if interval.isClosed then interval.low * unit ≤ point && point ≤ interval.high * unit
    else interval.low * unit < point && point < interval.high * unit
  let below := value / grid
  match holds below, holds (below + 1) with
  | true, false => some below
  | false, true => some (below + 1)
  | false, false => none
  | true, true => some (if 2 * (value % grid) < grid then below else below + 1)

end Interval

/-- The greatest power of ten that is tried; it is greater than every binary number. -/
def topPower : Nat := 309

/-- The shortest decimal form of a number.  The powers of ten that are tried go down to one that
is less than half the least binary number. -/
def Binary.shortest (number : Binary) : Numeral :=
  let interval := number.interval
  let form (i : Nat) : Option Numeral :=
    let power := (topPower : Int) - i
    (interval.multiple? power).map (⟨·, power⟩)
  if number.multiple = 0 then ⟨0, 0⟩
  else ((List.range 640).findSome? form).getD ⟨0, 0⟩

namespace Numeral

/-- The digits of a number, written out with a point between ones and tenths.  A whole number has
one zero behind its point. -/
def digits (number : Numeral) : String :=
  let digits := Nat.toDigits 10 number.multiple
  if 0 ≤ number.power then
    String.ofList (digits ++ List.replicate number.power.toNat '0') ++ ".0"
  else
    let places := (-number.power).toNat
    let digits := List.replicate (places + 1 - digits.length) '0' ++ digits
    let whole := digits.length - places
    String.ofList (digits.take whole) ++ "." ++ String.ofList (digits.drop whole)

end Numeral

end ModeSwitch.Decimal
